/-!
# Blank text

White space in the sense of Unicode's property White_Space, and what follows from it: trimming at
both ends, and the test whether a text is blank. A text is blank exactly when trimming leaves
nothing (`isBlank_iff_trim`).
-/

set_option autoImplicit false

namespace ScimLookup.Text

/-- The characters with the Unicode property White_Space. -/
def isSpace (c : Char) : Bool :=
  let n := c.toNat
  (9 ≤ n && n ≤ 13) || n == 0x20 || n == 0x85 || n == 0xA0 || n == 0x1680 ||
    (0x2000 ≤ n && n ≤ 0x200A) || n == 0x2028 || n == 0x2029 || n == 0x202F || n == 0x205F ||
    n == 0x3000

/-- Drop the longest stretch at the end whose characters all satisfy `p`. -/
def dropEndWhile (p : Char → Bool) (cs : List Char) : List Char :=
  (cs.reverse.dropWhile p).reverse

/-- The text without white space at either end. -/
def trim (s : String) : String :=
  .ofList (dropEndWhile isSpace (s.toList.dropWhile isSpace))

/-- Nothing but white space. -/
def isBlank (s : String) : Bool :=
  s.toList.all isSpace

/-- The text without the characters of `p` at its end. -/
def trimEnd (p : Char → Bool) (s : String) : String :=
  .ofList (dropEndWhile p s.toList)

/-- Two texts that agree up to the case of ASCII letters. -/
def eqIgnoringCase (s t : String) : Bool :=
  s.toList.map Char.toLower == t.toList.map Char.toLower

/-- The text with its ASCII letters in upper case. -/
def upper (s : String) : String :=
  .ofList (s.toList.map Char.toUpper)

/-- The text with its ASCII letters in lower case. -/
def lower (s : String) : String :=
  .ofList (s.toList.map Char.toLower)

/-! ## Laws -/

/-- Dropping leaves nothing exactly when every character is dropped. -/
theorem dropWhile_eq_nil_iff (p : Char → Bool) (cs : List Char) :
    cs.dropWhile p = [] ↔ ∀ c ∈ cs, p c = true := by
  induction cs with
  | nil => simp
  | cons c cs ih => by_cases h : p c <;> simp [h, ih]

/-- Dropping at the end leaves nothing exactly when every character is dropped. -/
theorem dropEndWhile_eq_nil_iff (p : Char → Bool) (cs : List Char) :
    dropEndWhile p cs = [] ↔ ∀ c ∈ cs, p c = true := by
  rw [dropEndWhile, List.reverse_eq_nil_iff, dropWhile_eq_nil_iff]
  simp

/-- What is left after dropping at the front starts with a character that stays. -/
theorem forall_mem_dropWhile (p : Char → Bool) (cs : List Char)
    (h : ∀ c ∈ cs.dropWhile p, p c = true) : ∀ c ∈ cs, p c = true := by
  induction cs with
  | nil => simp
  | cons c cs ih => by_cases hc : p c <;> simp_all

/-- What is left after dropping at the end ends with a character that stays. -/
theorem forall_mem_dropEndWhile (p : Char → Bool) (cs : List Char)
    (h : ∀ c ∈ dropEndWhile p cs, p c = true) : ∀ c ∈ cs, p c = true := by
  intro c hc
  refine forall_mem_dropWhile p cs.reverse (fun d hd => h d ?_) c (List.mem_reverse.2 hc)
  exact List.mem_reverse.2 hd

/-- Nothing is dropped before a character that stays. -/
theorem dropWhile_eq_self {p : Char → Bool} {cs : List Char} (h : ∀ c ∈ cs.head?, p c = false) :
    cs.dropWhile p = cs := by
  cases cs with
  | nil => rfl
  | cons c cs => exact List.dropWhile_cons_of_neg (Bool.eq_false_iff.1 (h c rfl))

/-- A text is left alone that has no white space at its ends. -/
theorem trim_eq_self {s : String} (hfirst : ∀ c ∈ s.toList.head?, isSpace c = false)
    (hlast : ∀ c ∈ s.toList.getLast?, isSpace c = false) : trim s = s := by
  have hback : dropEndWhile isSpace s.toList = s.toList := by
    rw [dropEndWhile, dropWhile_eq_self (by rwa [List.head?_reverse]), List.reverse_reverse]
  rw [trim, dropWhile_eq_self hfirst, hback, String.ofList_toList]

/-- Only a blank text is blank between its ends. -/
theorem isBlank_of_trim {s : String} (h : isBlank (trim s) = true) : isBlank s = true := by
  rw [isBlank, trim, String.toList_ofList, List.all_eq_true] at h
  exact List.all_eq_true.2
    (forall_mem_dropWhile isSpace _ (forall_mem_dropEndWhile isSpace _ h))

/-- **Blank is what trims to nothing.** -/
theorem isBlank_iff_trim (s : String) : isBlank s = true ↔ trim s = "" := by
  have key : dropEndWhile isSpace (s.toList.dropWhile isSpace) = [] ↔
      ∀ c ∈ s.toList, isSpace c = true := by
    rw [dropEndWhile_eq_nil_iff]
    constructor
    · exact forall_mem_dropWhile isSpace s.toList
    · intro h
      simp [(dropWhile_eq_nil_iff isSpace s.toList).2 h]
  rw [isBlank, List.all_eq_true, ← key, trim]
  constructor
  · intro h
    rw [h]
  · intro h
    simpa using congrArg String.toList h

/-- White space has no case. -/
theorem toLower_of_isSpace {c : Char} (h : isSpace c = true) : c.toLower = c := by
  have hcase : ¬ (65 ≤ c.toNat ∧ c.toNat ≤ 90) := by
    intro hletter
    simp only [isSpace, Bool.or_eq_true, Bool.and_eq_true, decide_eq_true_eq, beq_iff_eq] at h
    omega
  exact dif_neg hcase

/-- What a blank text agrees with, up to the case of letters, is blank in lower case. -/
theorem isBlank_of_eqIgnoringCase {s t : String} (h : eqIgnoringCase s t = true)
    (hs : isBlank s = true) : isBlank (lower t) = true := by
  rw [isBlank, List.all_eq_true] at hs
  rw [eqIgnoringCase, beq_iff_eq] at h
  rw [isBlank, lower, String.toList_ofList, ← h, List.all_eq_true]
  intro c hc
  obtain ⟨d, hd, rfl⟩ := List.mem_map.1 hc
  rw [toLower_of_isSpace (hs d hd)]
  exact hs d hd

end ScimLookup.Text
