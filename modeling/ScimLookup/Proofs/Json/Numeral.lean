import ScimLookup.Json.Document
import ScimLookup.Proofs.Bytes.Utf8
import ScimLookup.Proofs.Number.Decimal

/-!
# Numerals

The grammar of numerals (`IsNumeral`): a whole part without needless zeros, then perhaps a fraction and
an exponent. A numeral is taken all and nothing more, and no fault is met on the way
(`IsNumeral.isTaken`), if no byte follows that goes on with it. A whole number is written as a numeral
(`isNumeral_ofInt`) and read as this number (`readNumeral_ofInt`); its digits have its value
(`digitsValue_digitBytes`).
-/

set_option autoImplicit false

namespace ScimLookup

namespace Utf8

/-- An ASCII text is written in one byte a character. -/
theorem encode_of_lt {cs : List Char} (h : ∀ c ∈ cs, c.toNat < 0x80) :
    encode cs = cs.map fun c => UInt8.ofNat c.toNat := by
  induction cs with
  | nil => rfl
  | cons c cs ih =>
      have hc : c.toNat < 0x80 := h c List.mem_cons_self
      have hcs := ih fun d hd => h d (List.mem_cons_of_mem c hd)
      rw [encode_cons, encodeChar_of_lt hc, hcs]
      rfl

end Utf8

namespace Json

/-! ## Digits -/

/-- The bytes of the digits of a number. -/
def digitBytes (n : Nat) : Bytes :=
  Utf8.encode (Decimal.digits n)

theorem toNat_of_isDigit {c : Char} (h : Decimal.isDigit c = true) :
    48 ≤ c.toNat ∧ c.toNat ≤ 57 := by
  rwa [Decimal.isDigit, decide_eq_true_eq] at h

theorem digitBytes_eq (n : Nat) :
    digitBytes n = (Decimal.digits n).map fun c => UInt8.ofNat c.toNat := by
  apply Utf8.encode_of_lt
  intro c hc
  have := toNat_of_isDigit (Decimal.isDigit_of_mem_digits hc)
  omega

theorem isDigit_of_mem_digitBytes {n : Nat} {b : UInt8} (h : b ∈ digitBytes n) :
    isDigit b = true := by
  rw [digitBytes_eq, List.mem_map] at h
  obtain ⟨c, hc, rfl⟩ := h
  have hrange := toNat_of_isDigit (Decimal.isDigit_of_mem_digits hc)
  rw [isDigit, decide_eq_true_eq, Utf8.toNat_ofNat (by omega)]
  exact hrange

/-- **The digits of a number have its value.** -/
theorem digitsValue_digitBytes (n : Nat) : digitsValue (digitBytes n) = n := by
  have hfold : ∀ (cs : List Char) (acc : Nat), (∀ c ∈ cs, Decimal.isDigit c = true) →
      (cs.map fun c => UInt8.ofNat c.toNat).foldl (fun acc d => acc * 10 + (d.toNat - 0x30)) acc =
        cs.foldl (fun acc c => acc * 10 + Decimal.digitValue c) acc := by
    intro cs
    induction cs with
    | nil =>
        intro acc _
        rfl
    | cons c cs ih =>
        intro acc h
        have hc := toNat_of_isDigit (h c List.mem_cons_self)
        rw [List.map_cons, List.foldl_cons, List.foldl_cons, Utf8.toNat_ofNat (by omega),
          Decimal.digitValue]
        exact ih _ fun d hd => h d (List.mem_cons_of_mem c hd)
  rw [digitBytes_eq, digitsValue, hfold _ 0 fun c hc => Decimal.isDigit_of_mem_digits hc]
  exact Decimal.value_digits n

/-- There is a first digit. -/
theorem exists_digitBytes_cons (n : Nat) :
    ∃ b bs, digitBytes n = b :: bs ∧ isDigit b = true := by
  have hne : digitBytes n ≠ [] := by
    rw [digitBytes_eq]
    intro h
    exact Decimal.digits_ne_nil n (List.map_eq_nil_iff.1 h)
  obtain ⟨b, bs, hcons⟩ := List.exists_cons_of_ne_nil hne
  refine ⟨b, bs, hcons, ?_⟩
  apply isDigit_of_mem_digitBytes (n := n)
  rw [hcons]
  exact List.mem_cons_self

/-- No zero stands before another digit. -/
theorem digitBytes_ne_zero_cons {n : Nat} {b : UInt8} {bs : Bytes} :
    digitBytes n ≠ 0x30 :: b :: bs := by
  intro h
  by_cases hn : n = 0
  · have hone : digitBytes 0 = [0x30] := by
      rw [digitBytes, Decimal.digits]
      decide
    rw [hn, hone] at h
    cases h
  · -- A number other than zero does not even start with a zero.
    rw [digitBytes_eq] at h
    obtain ⟨c, cs, hcons, hc, -⟩ := List.map_eq_cons_iff.1 h
    have hmem : c ∈ Decimal.digits n := by
      rw [hcons]
      exact List.mem_cons_self
    have hrange := toNat_of_isDigit (Decimal.isDigit_of_mem_digits hmem)
    have hnat := congrArg UInt8.toNat hc
    rw [Utf8.toNat_ofNat (by omega)] at hnat
    have hzero : c = '0' := Char.toNat_inj.1 hnat
    apply Decimal.head?_digits hn
    rw [hcons, hzero]
    rfl

/-! ## Numerals -/

/-- A byte that goes on with a numeral. -/
def extendsNumeral (b : UInt8) : Bool :=
  isDigit b || b == 0x2E || b == 0x65 || b == 0x45

/-- Bytes that do not go on with a numeral before them. -/
def EndsNumeral (bs : Bytes) : Prop :=
  ∀ b ∈ bs.head?, extendsNumeral b = false

theorem endsNumeral_nil : EndsNumeral [] := by
  intro b hb
  cases hb

/-- The digits in front of another byte are taken all, and nothing more. -/
theorem span_digits {ds rest : Bytes} (hds : ∀ d ∈ ds, isDigit d = true)
    (hrest : ∀ b ∈ rest.head?, isDigit b = false) :
    (ds ++ rest).takeWhile isDigit = ds ∧ (ds ++ rest).dropWhile isDigit = rest := by
  rw [List.takeWhile_append_of_pos hds, List.dropWhile_append_of_pos hds]
  cases rest with
  | nil => exact ⟨List.append_nil ds, rfl⟩
  | cons b bs =>
      have hb : isDigit b = false := hrest b rfl
      rw [List.takeWhile_cons, List.dropWhile_cons, hb]
      exact ⟨List.append_nil ds, rfl⟩

theorem EndsNumeral.no_digit {bs : Bytes} (h : EndsNumeral bs) :
    ∀ b ∈ bs.head?, isDigit b = false := by
  intro b hb
  have hfalse := h b hb
  simp only [extendsNumeral, Bool.or_eq_false_iff] at hfalse
  exact hfalse.1.1.1

/-! ## Grammar -/

/-- One digit or more. -/
def IsDigits (ds : Bytes) : Prop :=
  ds ≠ [] ∧ ∀ d ∈ ds, isDigit d = true

/-- The letter of an exponent. -/
def isExponentMark (b : UInt8) : Bool :=
  b == 0x65 || b == 0x45

/-- An exponent, or nothing. -/
inductive IsExponent : Bytes → Prop where
  | none : IsExponent []
  | plain {e : UInt8} {ds : Bytes} (mark : isExponentMark e = true) (digits : IsDigits ds) :
      IsExponent (e :: ds)
  | plus {e : UInt8} {ds : Bytes} (mark : isExponentMark e = true) (digits : IsDigits ds) :
      IsExponent (e :: 0x2B :: ds)
  | minus {e : UInt8} {ds : Bytes} (mark : isExponentMark e = true) (digits : IsDigits ds) :
      IsExponent (e :: 0x2D :: ds)

/-- What may follow the whole digits: a fraction, an exponent or nothing. -/
inductive IsFraction : Bytes → Prop where
  | none {es : Bytes} (exponent : IsExponent es) : IsFraction es
  | point {ds es : Bytes} (digits : IsDigits ds) (exponent : IsExponent es) :
      IsFraction (0x2E :: (ds ++ es))

/-- A numeral without its sign. No zero stands before another digit. -/
inductive IsUnsigned : Bytes → Prop where
  | whole {ds fs : Bytes} (digits : IsDigits ds) (zero : ∀ b bs, ds ≠ 0x30 :: b :: bs)
      (fraction : IsFraction fs) : IsUnsigned (ds ++ fs)

/-- A numeral. -/
inductive IsNumeral : Bytes → Prop where
  | positive {ns : Bytes} (unsigned : IsUnsigned ns) : IsNumeral ns
  | negative {ns : Bytes} (unsigned : IsUnsigned ns) : IsNumeral (0x2D :: ns)

theorem IsDigits.exists_cons {ds : Bytes} (h : IsDigits ds) :
    ∃ d ds', ds = d :: ds' ∧ isDigit d = true := by
  obtain ⟨d, ds', rfl⟩ := List.exists_cons_of_ne_nil h.1
  exact ⟨d, ds', rfl, h.2 d List.mem_cons_self⟩

/-- A numeral starts with a digit or a sign. -/
theorem IsNumeral.exists_cons {ns : Bytes} (h : IsNumeral ns) :
    ∃ b bs, ns = b :: bs ∧ (b == 0x2D || isDigit b) = true := by
  cases h with
  | positive unsigned =>
      obtain ⟨digits, -, -⟩ := unsigned
      obtain ⟨d, ds, rfl, hd⟩ := digits.exists_cons
      refine ⟨d, _, rfl, ?_⟩
      rw [hd, Bool.or_true]
  | negative unsigned => exact ⟨0x2D, _, rfl, rfl⟩

/-- Behind whole digits an exponent starts neither with a digit nor with a point. -/
theorem IsExponent.head {es rest : Bytes} (h : IsExponent es) (hrest : EndsNumeral rest) :
    ∀ b ∈ (es ++ rest).head?, isDigit b = false ∧ b ≠ 0x2E := by
  have hmark : ∀ e : UInt8, isExponentMark e = true → isDigit e = false ∧ e ≠ 0x2E := by
    intro e he
    simp only [isExponentMark, Bool.or_eq_true, beq_iff_eq] at he
    rcases he with rfl | rfl
    · decide
    · decide
  intro b hb
  cases h with
  | none =>
      refine ⟨hrest.no_digit b hb, ?_⟩
      rintro rfl
      exact absurd (hrest 0x2E hb) (by decide)
  | plain mark digits =>
      cases hb
      exact hmark _ mark
  | plus mark digits =>
      cases hb
      exact hmark _ mark
  | minus mark digits =>
      cases hb
      exact hmark _ mark

theorem IsFraction.head {fs rest : Bytes} (h : IsFraction fs) (hrest : EndsNumeral rest) :
    ∀ b ∈ (fs ++ rest).head?, isDigit b = false := by
  intro b hb
  cases h with
  | none exponent => exact (exponent.head hrest b hb).1
  | point digits exponent =>
      cases hb
      decide

/-! ## Reading -/

/-- The bytes are taken all by a function that reads from the front, and nothing more, and the walk
past them meets no fault. -/
def IsTaken (read : Bytes → Numeral × Bytes) (ns : Bytes) : Prop :=
  ∃ n : Numeral, n.skipped = none ∧ ∀ rest, EndsNumeral rest → read (ns ++ rest) = (n, rest)

theorem readExponent_of_ends {bs : Bytes} (h : EndsNumeral bs) (plain : Except Fault Number)
    (whole fraction : List UInt8) : readExponent plain whole fraction bs = (⟨plain, none⟩, bs) := by
  cases bs with
  | nil => rfl
  | cons b bs =>
      have hb : extendsNumeral b = false := h b rfl
      simp only [extendsNumeral, Bool.or_eq_false_iff] at hb
      obtain ⟨⟨⟨-, -⟩, hlower⟩, hupper⟩ := hb
      rw [readExponent.eq_def]
      simp only [hlower, hupper, Bool.or_self, Bool.false_eq_true, if_false]

theorem IsExponent.isTaken {es : Bytes} (h : IsExponent es) (plain : Except Fault Number)
    (whole fraction : List UInt8) : IsTaken (readExponent plain whole fraction) es := by
  -- The number depends on the sign and the digits; what is taken does not.
  have hdigits : ∀ {ds rest : Bytes}, IsDigits ds → EndsNumeral rest →
      (ds ++ rest).takeWhile isDigit = ds ∧ (ds ++ rest).dropWhile isDigit = rest ∧
        ds.isEmpty = false := by
    intro ds rest hds hrest
    obtain ⟨htake, hdrop⟩ := span_digits hds.2 hrest.no_digit
    exact ⟨htake, hdrop, List.isEmpty_eq_false_iff.2 hds.1⟩
  cases h with
  | none => exact ⟨⟨plain, .none⟩, rfl, fun rest hrest => readExponent_of_ends hrest _ _ _⟩
  | @plain e ds mark digits =>
      refine ⟨⟨if inRange whole fraction (digitsValue ds) then .ok .other else .error .malformed,
        .none⟩, rfl, fun rest hrest => ?_⟩
      obtain ⟨htake, hdrop, hne⟩ := hdigits digits hrest
      obtain ⟨d, ds', rfl, hd⟩ := digits.exists_cons
      rw [isExponentMark] at mark
      rw [List.cons_append] at htake hdrop
      rw [List.cons_append, List.cons_append, readExponent, if_pos mark]
      · simp only [htake, hdrop, hne]
        rfl
      -- A digit is no sign.
      · intro bs hplus
        cases hplus
        exact absurd hd (by decide)
      · intro bs hminus
        cases hminus
        exact absurd hd (by decide)
  | @plus e ds mark digits =>
      refine ⟨⟨if inRange whole fraction (digitsValue ds) then .ok .other else .error .malformed,
        .none⟩, rfl, fun rest hrest => ?_⟩
      obtain ⟨htake, hdrop, hne⟩ := hdigits digits hrest
      rw [isExponentMark] at mark
      rw [List.cons_append, List.cons_append, readExponent, if_pos mark]
      simp only [htake, hdrop, hne]
      rfl
  | @minus e ds mark digits =>
      refine ⟨⟨if inRange whole fraction (-(digitsValue ds : Int)) then .ok .other
        else .error .malformed, .none⟩, rfl, fun rest hrest => ?_⟩
      obtain ⟨htake, hdrop, hne⟩ := hdigits digits hrest
      rw [isExponentMark] at mark
      rw [List.cons_append, List.cons_append, readExponent, if_pos mark]
      simp only [htake, hdrop, hne]
      rfl

theorem readFraction_of_head {bs : Bytes} (h : ∀ b ∈ bs.head?, b ≠ 0x2E) (negative : Bool)
    (whole : List UInt8) :
    readFraction negative whole bs = readExponent (wholeNumber negative whole) whole [] bs := by
  rw [readFraction.eq_def]
  split
  · exact absurd rfl (h 0x2E rfl)
  · rfl

theorem IsFraction.isTaken {fs : Bytes} (h : IsFraction fs) (negative : Bool)
    (whole : List UInt8) : IsTaken (readFraction negative whole) fs := by
  cases h with
  | none exponent =>
      obtain ⟨n, hskipped, hread⟩ := exponent.isTaken (wholeNumber negative whole) whole []
      refine ⟨n, hskipped, fun rest hrest => ?_⟩
      rw [readFraction_of_head fun b hb => (exponent.head hrest b hb).2, hread rest hrest]
  | @point ds es digits exponent =>
      obtain ⟨n, hskipped, hread⟩ := exponent.isTaken
        (if inRange whole ds 0 then .ok .other else .error .malformed) whole ds
      refine ⟨n, hskipped, fun rest hrest => ?_⟩
      obtain ⟨htake, hdrop⟩ := span_digits digits.2 fun b hb => (exponent.head hrest b hb).1
      rw [List.cons_append, List.append_assoc, readFraction, htake, hdrop,
        List.isEmpty_eq_false_iff.2 digits.1]
      exact hread rest hrest

/-- Behind the whole digits the reading goes on with what follows them. -/
theorem readUnsigned_append {ds rest : Bytes} (hds : IsDigits ds)
    (hzero : ∀ b bs, ds ≠ 0x30 :: b :: bs) (hrest : ∀ b ∈ rest.head?, isDigit b = false)
    (negative : Bool) : readUnsigned negative (ds ++ rest) = readFraction negative ds rest := by
  obtain ⟨htake, hdrop⟩ := span_digits hds.2 hrest
  rw [readUnsigned, htake, hdrop]
  split
  · exact absurd rfl hds.1
  · exact absurd rfl (hzero _ _)
  · rfl

theorem IsUnsigned.isTaken {ns : Bytes} (h : IsUnsigned ns) (negative : Bool) :
    IsTaken (readUnsigned negative) ns := by
  obtain ⟨digits, zero, fraction⟩ := h
  obtain ⟨n, hskipped, hread⟩ := fraction.isTaken negative _
  refine ⟨n, hskipped, fun rest hrest => ?_⟩
  rw [List.append_assoc, readUnsigned_append digits zero (fraction.head hrest), hread rest hrest]

theorem readNumeral_of_digit {b : UInt8} (h : isDigit b = true) (bs : Bytes) :
    readNumeral (b :: bs) = readUnsigned false (b :: bs) := by
  rw [readNumeral.eq_def]
  split
  · rename_i heq
    cases heq
    exact absurd h (by decide)
  · rfl

/-- **A numeral is taken all, and nothing more**, if nothing goes on with it. -/
theorem IsNumeral.isTaken {ns : Bytes} (h : IsNumeral ns) : IsTaken readNumeral ns := by
  cases h with
  | negative unsigned => exact unsigned.isTaken true
  | positive unsigned =>
      obtain ⟨n, hskipped, hread⟩ := unsigned.isTaken false
      refine ⟨n, hskipped, fun rest hrest => ?_⟩
      have hfirst := hread rest hrest
      obtain ⟨digits, zero, fraction⟩ := unsigned
      obtain ⟨d, ds, rfl, hd⟩ := digits.exists_cons
      exact (readNumeral_of_digit hd _).trans hfirst

/-- What a numeral reads as does not depend on what follows it. -/
theorem IsNumeral.readNumeral_eq {ns : Bytes} (h : IsNumeral ns) :
    (readNumeral ns).1.skipped = none ∧
      ∀ rest, EndsNumeral rest → readNumeral (ns ++ rest) = ((readNumeral ns).1, rest) := by
  obtain ⟨n, hskipped, hread⟩ := h.isTaken
  have halone := hread [] endsNumeral_nil
  rw [List.append_nil] at halone
  rw [halone]
  exact ⟨hskipped, hread⟩

/-! ## Written numbers -/

theorem isDigits_digitBytes (n : Nat) : IsDigits (digitBytes n) := by
  obtain ⟨b, bs, hcons, -⟩ := exists_digitBytes_cons n
  refine ⟨?_, fun d hd => isDigit_of_mem_digitBytes hd⟩
  rw [hcons]
  exact List.cons_ne_nil b bs

theorem isUnsigned_digitBytes (n : Nat) : IsUnsigned (digitBytes n) := by
  have h := IsUnsigned.whole (isDigits_digitBytes n) (fun _ _ => digitBytes_ne_zero_cons)
    (.none .none)
  rwa [List.append_nil] at h

theorem encode_negSucc (n : Nat) :
    Utf8.encode (Decimal.ofInt (.negSucc n)) = 0x2D :: digitBytes (n + 1) := by
  have hmark : String.utf8EncodeChar '-' = [0x2D] := by decide
  rw [Decimal.ofInt, Utf8.encode_cons, hmark]
  rfl

/-- A whole number is written as a numeral. -/
theorem isNumeral_ofInt (n : Int) : IsNumeral (Utf8.encode (Decimal.ofInt n)) := by
  cases n with
  | ofNat n => exact .positive (isUnsigned_digitBytes n)
  | negSucc n =>
      rw [encode_negSucc]
      exact .negative (isUnsigned_digitBytes (n + 1))

/-- What the written form of a whole number reads as. -/
def Numeral.ofInt (n : Int) : Numeral :=
  ⟨wholeNumber (decide (n < 0)) (digitBytes n.natAbs), none⟩

/-- A number of at most 64 bits is a whole number. -/
theorem Numeral.ofInt_value {n : Int} (h : -0x8000000000000000 ≤ n ∧ n ≤ 0xFFFFFFFFFFFFFFFF) :
    (Numeral.ofInt n).value = .ok (.whole n) := by
  rw [Numeral.ofInt]
  show wholeNumber (decide (n < 0)) (digitBytes n.natAbs) = _
  rw [wholeNumber, digitsValue_digitBytes]
  by_cases hneg : n < 0
  · have hzero : n.natAbs ≠ 0 := by omega
    have hsmall : n.natAbs ≤ 0x8000000000000000 := by omega
    have habs : -(n.natAbs : Int) = n := by omega
    simp only [hneg, decide_true, if_true, if_neg hzero, if_pos hsmall, habs]
  · have hsmall : n.natAbs ≤ maxWord := by
      rw [maxWord]
      omega
    have habs : (n.natAbs : Int) = n := by omega
    simp only [hneg, decide_false, Bool.false_eq_true, if_false, if_pos hsmall, habs]

/-- **A number is read from its written form.** -/
theorem readNumeral_ofInt (n : Int) :
    (readNumeral (Utf8.encode (Decimal.ofInt n))).1 = Numeral.ofInt n := by
  have hdigits : ∀ negative n, readUnsigned negative (digitBytes n) =
      (⟨wholeNumber negative (digitBytes n), none⟩, []) := by
    intro negative n
    have h : readUnsigned negative (digitBytes n ++ []) = readFraction negative (digitBytes n) [] :=
      readUnsigned_append (isDigits_digitBytes n) (fun _ _ => digitBytes_ne_zero_cons)
        endsNumeral_nil.no_digit negative
    rwa [List.append_nil] at h
  cases n with
  | ofNat n =>
      have hread := hdigits false n
      obtain ⟨b, ds, hcons, hb⟩ := exists_digitBytes_cons n
      show (readNumeral (digitBytes n)).1 = _
      rw [hcons, readNumeral_of_digit hb, ← hcons, hread]
      rfl
  | negSucc n =>
      have hneg : decide (Int.negSucc n < 0) = true := decide_eq_true (Int.negSucc_lt_zero n)
      rw [encode_negSucc, readNumeral, hdigits, Numeral.ofInt, hneg, Int.natAbs_negSucc]

end Json

end ScimLookup
