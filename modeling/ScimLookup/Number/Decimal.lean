/-!
# Decimal numerals

The digits of a natural number without leading zeros, and the value of a sequence of digits. The
value of the digits of `n` is `n` (`value_digits`).
-/

set_option autoImplicit false

namespace ScimLookup.Decimal

/-- The digit of a value below ten. -/
def digitChar (n : Nat) : Char :=
  Char.ofNat (48 + n)

/-- An ASCII digit. -/
def isDigit (c : Char) : Bool :=
  decide (48 ≤ c.toNat ∧ c.toNat ≤ 57)

/-- The value of a digit. -/
def digitValue (c : Char) : Nat :=
  c.toNat - 48

/-- The digits of a natural number. -/
def digits (n : Nat) : List Char :=
  if n < 10 then [digitChar n] else digits (n / 10) ++ [digitChar (n % 10)]
termination_by n
decreasing_by omega

/-- The value of a sequence of digits, the most significant first. -/
def value (cs : List Char) : Nat :=
  cs.foldl (fun acc c => acc * 10 + digitValue c) 0

/-- The value of characters that are digits, of which there is one at least. -/
def ofDigits? (cs : List Char) : Option Nat :=
  if cs.isEmpty || !cs.all isDigit then none else some (value cs)

/-- The digits of an integer, behind a minus sign if it is negative. -/
def ofInt : Int → List Char
  | .ofNat n => digits n
  | .negSucc n => '-' :: digits (n + 1)

/-- The numeral of an integer. -/
def text (n : Int) : String :=
  .ofList (ofInt n)

/-! ## Laws -/

/-- A digit reads back. -/
theorem digitValue_digitChar : ∀ n, n < 10 → digitValue (digitChar n) = n := by decide

/-- **The digits of a number read back.** -/
theorem value_digits (n : Nat) : value (digits n) = n := by
  rw [digits]
  split
  · simp [value, digitValue_digitChar n (by omega)]
  · have ih := value_digits (n / 10)
    simp only [value, List.foldl_append, List.foldl_cons, List.foldl_nil] at ih ⊢
    rw [ih, digitValue_digitChar (n % 10) (by omega)]
    omega
termination_by n
decreasing_by omega

end ScimLookup.Decimal
