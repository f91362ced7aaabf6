import ScimLookup.Number.Decimal

/-!
# Digits of numbers

The digits of a number are digits, there is one at least, and none but the number zero starts with a
zero. So a number reads back from its digits alone (`ofDigits?_digits`).
-/

set_option autoImplicit false

namespace ScimLookup.Decimal

/-- What holds of the digit of a value: it is a digit, and it is zero only for zero. -/
theorem digitChar_facts : ∀ n < 10, isDigit (digitChar n) = true ∧ (digitChar n = '0' → n = 0) := by
  decide

theorem digits_ne_nil (n : Nat) : digits n ≠ [] := by
  rw [digits]
  split
  · exact List.cons_ne_nil _ _
  · exact List.append_ne_nil_of_right_ne_nil _ (List.cons_ne_nil _ _)

theorem isDigit_of_mem_digits {n : Nat} {c : Char} (h : c ∈ digits n) : isDigit c = true := by
  rw [digits] at h
  split at h
  · rw [List.mem_singleton.1 h]
    exact (digitChar_facts n (by omega)).1
  · rcases List.mem_append.1 h with hinit | hlast
    · exact isDigit_of_mem_digits hinit
    · rw [List.mem_singleton.1 hlast]
      exact (digitChar_facts (n % 10) (by omega)).1
termination_by n
decreasing_by omega

/-- No zero stands before another digit. -/
theorem head?_digits {n : Nat} (h : n ≠ 0) : (digits n).head? ≠ some '0' := by
  rw [digits]
  split
  · rename_i hlt
    rw [List.head?_cons, ne_eq, Option.some.injEq]
    intro hzero
    exact h ((digitChar_facts n hlt).2 hzero)
  · have hinit : (digits (n / 10)).head? ≠ some '0' := head?_digits (by omega)
    obtain ⟨d, ds, hcons⟩ := List.exists_cons_of_ne_nil (digits_ne_nil (n / 10))
    rw [hcons] at hinit ⊢
    exact hinit
termination_by n
decreasing_by omega

/-- **A number reads back from its digits.** -/
theorem ofDigits?_digits (n : Nat) : ofDigits? (digits n) = some n := by
  have hall : (digits n).all isDigit = true :=
    List.all_eq_true.2 fun c hc => isDigit_of_mem_digits hc
  rw [ofDigits?, hall, List.isEmpty_eq_false_iff.2 (digits_ne_nil n), value_digits]
  rfl

end ScimLookup.Decimal
