import ScimLookup.Number.Decimal

/-!
# Words of a command line

A word that starts with two dashes names an option, and may give its value behind an equals sign.
One that starts with a single dash is a cluster of short flags. Two dashes alone divide what stands
before from operands behind. Every other word, a dash alone among them, is plain.
-/

set_option autoImplicit false

namespace ScimLookup.Command

/-- A text cut at the first `c`: what stands before it and behind it. -/
def cutAt? (c : Char) (cs : List Char) : Option (String × String) :=
  match cs.dropWhile (· != c) with
  | [] => none
  | _ :: behind => some (.ofList (cs.takeWhile (· != c)), .ofList behind)

/-- The cut is at the first `c`: none stands before it. -/
theorem cutAt?_eq_some_iff {c : Char} {cs : List Char} {front back : String} :
    cutAt? c cs = some (front, back) ↔
      cs = front.toList ++ c :: back.toList ∧ c ∉ front.toList := by
  rw [cutAt?]
  constructor
  · intro h
    cases hrest : cs.dropWhile (· != c) with
    | nil => simp [hrest] at h
    | cons d behind =>
        obtain ⟨rfl, rfl⟩ : _ = front ∧ _ = back := by simpa [hrest] using h
        have hd : d = c := by simpa [hrest] using List.head?_dropWhile_not (· != c) cs
        refine ⟨?_, fun hc => ?_⟩
        · subst hd
          rw [String.toList_ofList, String.toList_ofList, ← hrest, List.takeWhile_append_dropWhile]
        · rw [String.toList_ofList] at hc
          simpa using List.all_eq_true.1 List.all_takeWhile c hc
  · rintro ⟨rfl, hfront⟩
    have hne : ∀ d ∈ front.toList, (d != c) = true := fun d hd =>
      bne_iff_ne.2 fun h => hfront (h ▸ hd)
    have hstop : (c != c) = false := bne_self_eq_false c
    rw [List.dropWhile_append_of_pos hne, List.takeWhile_append_of_pos hne, List.dropWhile_cons,
      List.takeWhile_cons, hstop]
    simp

theorem exists_cutAt?_eq {c : Char} {cs : List Char} (h : c ∈ cs) :
    ∃ front back, cutAt? c cs = some (front, back) := by
  cases hrest : cs.dropWhile (· != c) with
  | nil =>
      have hwhole : cs.takeWhile (· != c) = cs := by
        have hparts : cs.takeWhile (· != c) ++ cs.dropWhile (· != c) = cs :=
          List.takeWhile_append_dropWhile
        rwa [hrest, List.append_nil] at hparts
      have hne := List.all_eq_true.1 List.all_takeWhile c (hwhole.symm ▸ h)
      simp at hne
  | cons d behind => exact ⟨_, _, by rw [cutAt?, hrest]⟩

/-- What a word is. -/
inductive Word where
  | divider
  | option (name : String) (value : Option String)
  | flags (letters : List Char)
  | plain (text : String)
deriving DecidableEq, Repr

namespace Word

/-- The option in what follows two dashes. -/
def ofOption (cs : List Char) : Word :=
  match cutAt? '=' cs with
  | some (name, value) => .option name (some value)
  | none => .option (.ofList cs) none

/-- What a word is. -/
def ofText (s : String) : Word :=
  match s.toList with
  | ['-', '-'] => .divider
  | '-' :: '-' :: cs => ofOption cs
  | '-' :: c :: cs => .flags (c :: cs)
  | _ => .plain s

end Word

/-! ## Values -/

/-- A text that may name a file. -/
def path? (s : String) : Option String :=
  if s.isEmpty then none else some s

/-- A natural number of at most `most`, behind a plus sign or without one. -/
def natural? (most : Nat) (s : String) : Option Nat :=
  let digits := match s.toList with
    | '+' :: cs => cs
    | cs => cs
  (Decimal.ofDigits? digits).filter (· ≤ most)

/-- A word of 32 bits, where zero may also be written as a negative number. -/
def count? (s : String) : Option UInt32 :=
  match s.toList with
  | '-' :: cs => ((Decimal.ofDigits? cs).filter (· = 0)).map fun _ => 0
  | _ => (natural? 0xFFFFFFFF s).map .ofNat

end ScimLookup.Command
