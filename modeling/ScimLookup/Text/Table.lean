import ScimLookup.Bytes.Percent
import ScimLookup.Text.Pieces

/-!
# Tables of characters

The notation in which the larger tables over characters are written. Code points are in hexadecimal,
and the words of a table stand apart. There are three kinds of tables:

* ranges: code points, alone or as `first-last`;
* classes: ranges, each in the class that the last word with a colon names;
* forms: what stands for the code point that the last word with a colon names, for the next one, and
  so on. A form is one code point, or several with `+` between them. It goes on for `n` code points
  as `form*n` if it ascends with them, as `form=n` if it stays the same, and as `form/n` if it
  ascends with every second code point and the others have no form.
-/

set_option autoImplicit false

namespace ScimLookup.Text

/-! ## Words -/

/-- Read one character: the words before it, the last one first, and the characters of the word that
it is in, the last one first. -/
def wordStep (s : List (List Char) × List Char) (c : Char) : List (List Char) × List Char :=
  if c == ' ' || c == '\n' then
    if s.2.isEmpty then s else (s.2.reverse :: s.1, [])
  else (s.1, c :: s.2)

/-- The words of a text. -/
def words (s : String) : List (List Char) :=
  let (ws, w) := s.toList.foldl wordStep ([], [])
  (if w.isEmpty then ws else w.reverse :: ws).reverse

/-- The number that hexadecimal digits write. -/
def codeOf (cs : List Char) : Nat :=
  cs.foldl (fun acc c => acc * 16 + (Percent.hexValue? c.toNat).getD 0) 0

/-! ## Ranges -/

/-- Closed ranges of code points. -/
abbrev Ranges := List (Nat × Nat)

/-- The range that a word writes. -/
def rangeOf (w : List Char) : Nat × Nat :=
  match pieces '-' w with
  | [first, last] => (codeOf first, codeOf last)
  | _ => (codeOf w, codeOf w)

/-- The ranges that a text writes. -/
def Ranges.ofText (s : String) : Ranges :=
  (words s).map rangeOf

/-- A character is in one of the ranges. -/
def Ranges.holds (rs : Ranges) (c : Char) : Bool :=
  rs.any fun r => decide (r.1 ≤ c.toNat ∧ c.toNat ≤ r.2)

/-! ## Classes -/

/-- Closed ranges of code points, each with the number of its class. -/
abbrev Classes := List ((Nat × Nat) × Nat)

/-- Read one word, in the class that is current, behind the ranges so far, the last one first. -/
def classStep (s : Nat × Classes) (w : List Char) : Nat × Classes :=
  match pieces ':' w with
  | [name, []] => (codeOf name, s.2)
  | _ => (s.1, (rangeOf w, s.1) :: s.2)

/-- The classes that a text writes. -/
def Classes.ofText (s : String) : Classes :=
  ((words s).foldl classStep (0, [])).2.reverse

/-- The class of a character, if it has one. -/
def Classes.of? (cs : Classes) (c : Char) : Option Nat :=
  (cs.find? fun e => decide (e.1.1 ≤ c.toNat ∧ c.toNat ≤ e.1.2)).map (·.2)

/-! ## Forms -/

/-- Code points, each with the characters that stand for it. -/
abbrev Forms := List (Nat × List Char)

/-- The code points of a form. -/
def formOf (w : List Char) : List Nat :=
  (pieces '+' w).map codeOf

/-- The first code point of a form, `n` further on. -/
def ascended (n : Nat) : List Nat → List Nat
  | [] => []
  | m :: ms => (m + n) :: ms

/-- Read one word, at a code point, behind the forms so far, the last one first. -/
def formStep (s : Nat × Forms) (w : List Char) : Nat × Forms :=
  match pieces ':' w, pieces '*' w, pieces '=' w, pieces '/' w with
  | [start, []], _, _, _ => (codeOf start, s.2)
  | _, [form, n], _, _ => run 1 1 (formOf form) (codeOf n)
  | _, _, [form, n], _ => run 1 0 (formOf form) (codeOf n)
  | _, _, _, [form, n] => run 2 2 (formOf form) (codeOf n)
  | _, _, _, _ => run 1 1 (formOf w) 1
where
  /-- Forms for `n` code points in steps, which ascend by `rise` at each. -/
  run (step rise : Nat) (form : List Nat) (n : Nat) : Nat × Forms :=
    (s.1 + step * (n - 1) + 1, (List.range n).foldl (fun fs i =>
      (s.1 + step * i, (ascended (rise * i) form).map Char.ofNat) :: fs) s.2)

/-- The forms that a text writes. -/
def Forms.ofText (s : String) : Forms :=
  ((words s).foldl formStep (0, [])).2.reverse

/-- What stands for a character, if it has a form. -/
def Forms.of? (fs : Forms) (c : Char) : Option (List Char) :=
  fs.lookup c.toNat

end ScimLookup.Text
