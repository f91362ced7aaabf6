import Mathlib.Algebra.Group.Nat.Defs
import ScimLookup.Bytes.Base64

/-!
# Texts in base64

What base64 is, is a rule about bits (`IsTextOf`): the bytes are one row of bits, the row is cut
into sixes, zeros fill up the last one, and each six is a digit; two zeros more are one mark of
padding more, and digits and marks come in groups of four. The text that is written for bytes keeps
this rule (`isTextOf_encode`), and strict reading gives the bytes back (`decode?_encode`). Both
follow the groups of three bytes.
-/

set_option autoImplicit false

namespace ScimLookup.Base64

/-! ## Bits -/

/-- The lowest `k` bits of a number, the highest of them first. -/
def bits : Nat → Nat → List Bool
  | 0, _ => []
  | k + 1, n => bits k (n / 2) ++ [n % 2 == 1]

theorem bits_add (j k n : Nat) : bits (j + k) n = bits j (n / 2 ^ k) ++ bits k n := by
  induction k generalizing n with
  | zero => simp [bits]
  | succ k ih =>
      have hdiv : n / 2 / 2 ^ k = n / 2 ^ (k + 1) := by
        rw [Nat.div_div_eq_div_mul, Nat.pow_succ']
      rw [← Nat.add_assoc, bits, ih, hdiv, bits, List.append_assoc]

/-- Higher bits make no difference. -/
theorem bits_mul_add (k x y : Nat) : bits k (x * 2 ^ k + y) = bits k y := by
  induction k generalizing y with
  | zero => rfl
  | succ k ih =>
      have hsplit : x * 2 ^ (k + 1) = 2 * (x * 2 ^ k) := by
        rw [Nat.pow_succ]
        ac_rfl
      have hdiv : (x * 2 ^ (k + 1) + y) / 2 = x * 2 ^ k + y / 2 := by omega
      have hmod : (x * 2 ^ (k + 1) + y) % 2 = y % 2 := by omega
      rw [bits, hdiv, hmod, ih, bits]

/-- The bits of a number that is put together from two parts. -/
theorem bits_joined {k y : Nat} (hy : y < 2 ^ k) (j x : Nat) :
    bits (j + k) (x * 2 ^ k + y) = bits j x ++ bits k y := by
  have hdiv : (x * 2 ^ k + y) / 2 ^ k = x := by
    rw [Nat.mul_comm, Nat.mul_add_div (Nat.two_pow_pos k), Nat.div_eq_of_lt hy, Nat.add_zero]
  rw [bits_add, hdiv, bits_mul_add]

/-- The bits of a number with zeros behind it. -/
theorem bits_filled (j k x : Nat) : bits (j + k) (x * 2 ^ k) = bits j x ++ bits k 0 := by
  have hjoined := bits_joined (Nat.two_pow_pos k) j x
  rwa [Nat.add_zero] at hjoined

/-- The bits of a number that is taken apart. -/
theorem bits_parted (j k n : Nat) : bits (j + k) n = bits j (n / 2 ^ k) ++ bits k (n % 2 ^ k) := by
  have hparts : n / 2 ^ k * 2 ^ k + n % 2 ^ k = n := Nat.div_add_mod' n (2 ^ k)
  calc
    bits (j + k) n = bits (j + k) (n / 2 ^ k * 2 ^ k + n % 2 ^ k) := by rw [hparts]
    _ = bits j (n / 2 ^ k) ++ bits k (n % 2 ^ k) :=
      bits_joined (Nat.mod_lt n (Nat.two_pow_pos k)) j _

/-! ## The rule -/

/-- The digits in the order of their values. -/
def alphabet : List Char :=
  "ABCDEFGHIJKLMNOPQRSTUVWXYZabcdefghijklmnopqrstuvwxyz0123456789+/".toList

/-- The characters are the base64 text of the bytes: digits, each for six bits, and marks of
padding, each for two zeros that were added to the bits of the bytes; together they are groups of
four. -/
def IsTextOf (bs : Bytes) (cs : List Char) : Prop :=
  ∃ (digits : List Char) (values : List Nat) (marks : Nat),
    cs = digits ++ List.replicate marks '=' ∧ marks ≤ 2 ∧ cs.length % 4 = 0 ∧
      digits.map some = values.map (alphabet[·]?) ∧
      values.flatMap (bits 6) =
        bs.flatMap (fun b => bits 8 b.toNat) ++ List.replicate (2 * marks) false

/-- The text of bytes consists of digits and marks. -/
theorem IsTextOf.mem {bs : Bytes} {cs : List Char} (h : IsTextOf bs cs) {c : Char} (hc : c ∈ cs) :
    c ∈ '=' :: alphabet := by
  obtain ⟨digits, values, marks, rfl, -, -, hdigits, -⟩ := h
  rcases List.mem_append.1 hc with hc | hc
  · have hsome : some c ∈ values.map (alphabet[·]?) := hdigits ▸ List.mem_map_of_mem hc
    obtain ⟨value, -, hvalue⟩ := List.mem_map.1 hsome
    exact List.mem_cons_of_mem _ (List.mem_of_getElem? hvalue)
  · rw [List.eq_of_mem_replicate hc]
    exact List.mem_cons_self

theorem getElem?_alphabet : ∀ n < 64, alphabet[n]? = some (digit n) := by
  decide +kernel

theorem value?_digit : ∀ n < 64, value? (digit n) = some n := by
  decide +kernel

theorem digit_ne_mark : ∀ n < 64, digit n ≠ '=' := by
  decide +kernel

/-- Digits can be shown on paper, and so can the mark. -/
theorem visible_of_mem {c : Char} (hc : c ∈ '=' :: alphabet) : 0x20 < c.toNat ∧ c.toNat < 0x7F := by
  have hall : (('=' :: alphabet).all fun c => 0x20 < c.toNat ∧ c.toNat < 0x7F) = true := by
    decide +kernel
  exact of_decide_eq_true (List.all_eq_true.1 hall c hc)

/-! ## Writing -/

/-- The second six has the last two bits of a byte and the first four of the next one. -/
theorem bits_second {b : Nat} (hb : b < 0x100) (a : Nat) :
    bits 6 (a % 4 * 16 + b / 16) = bits 2 (a % 4) ++ bits 4 (b / 16) :=
  bits_joined (k := 4) (by omega) 2 _

/-- Three bytes are four sixes. -/
theorem bits_three {a b c : Nat} (hb : b < 0x100) (hc : c < 0x100) :
    bits 6 (a / 4) ++ bits 6 (a % 4 * 16 + b / 16) ++ bits 6 (b % 16 * 4 + c / 64) ++
        bits 6 (c % 64) = bits 8 a ++ bits 8 b ++ bits 8 c := by
  have hthird : bits 6 (b % 16 * 4 + c / 64) = bits 4 (b % 16) ++ bits 2 (c / 64) :=
    bits_joined (k := 2) (by omega) 4 _
  have hpartsA : bits 8 a = bits 6 (a / 4) ++ bits 2 (a % 4) := bits_parted 6 2 a
  have hpartsB : bits 8 b = bits 4 (b / 16) ++ bits 4 (b % 16) := bits_parted 4 4 b
  have hpartsC : bits 8 c = bits 2 (c / 64) ++ bits 6 (c % 64) := bits_parted 2 6 c
  simp only [bits_second hb, hthird, hpartsA, hpartsB, hpartsC, List.append_assoc]

/-- The values of the digits that are written, and how many marks are. -/
theorem exists_values_encode (bs : Bytes) :
    ∃ (values : List Nat) (marks : Nat), (∀ n ∈ values, n < 64) ∧
      encode bs = values.map digit ++ List.replicate marks '=' ∧ marks ≤ 2 ∧
      (encode bs).length % 4 = 0 ∧
      values.flatMap (bits 6) =
        bs.flatMap (fun b => bits 8 b.toNat) ++ List.replicate (2 * marks) false := by
  induction bs using encode.induct with
  | case1 => exact ⟨[], 0, List.forall_mem_nil _, rfl, by decide, rfl, rfl⟩
  | case2 a =>
      -- Two bits are left over, and four zeros make a six of them: two marks.
      have ha := a.toNat_lt
      have hlast : bits 6 (a.toNat % 4 * 16) = bits 2 (a.toNat % 4) ++ bits 4 0 :=
        bits_filled 2 4 _
      refine ⟨[a.toNat / 4, a.toNat % 4 * 16], 2, ?_, ?_, by decide, ?_, ?_⟩
      · exact List.forall_mem_cons.2 ⟨by omega, List.forall_mem_singleton.2 (by omega)⟩
      · rw [encode]
        rfl
      · simp only [encode, List.length_cons, List.length_nil]
      · simp only [List.flatMap_cons, List.flatMap_nil, List.append_nil, hlast,
          bits_parted 6 2 a.toNat, List.append_assoc]
        rfl
  | case3 a b =>
      -- Four bits are left over, and two zeros make a six of them: one mark.
      have ha := a.toNat_lt
      have hb := b.toNat_lt
      have hlast : bits 6 (b.toNat % 16 * 4) = bits 4 (b.toNat % 16) ++ bits 2 0 :=
        bits_filled 4 2 _
      refine ⟨[a.toNat / 4, a.toNat % 4 * 16 + b.toNat / 16, b.toNat % 16 * 4], 1, ?_, ?_,
        by decide, ?_, ?_⟩
      · exact List.forall_mem_cons.2 ⟨by omega,
          List.forall_mem_cons.2 ⟨by omega, List.forall_mem_singleton.2 (by omega)⟩⟩
      · rw [encode]
        rfl
      · simp only [encode, List.length_cons, List.length_nil]
      · simp only [List.flatMap_cons, List.flatMap_nil, List.append_nil, bits_second hb, hlast,
          bits_parted 6 2 a.toNat, bits_parted 4 4 b.toNat, List.append_assoc]
        rfl
  | case4 a b c rest ih =>
      have ha := a.toNat_lt
      have hb := b.toNat_lt
      have hc := c.toNat_lt
      obtain ⟨values, marks, hvalues, htext, hmarks, hlength, hbits⟩ := ih
      refine ⟨a.toNat / 4 :: (a.toNat % 4 * 16 + b.toNat / 16) ::
          (b.toNat % 16 * 4 + c.toNat / 64) :: c.toNat % 64 :: values,
        marks, ?_, ?_, hmarks, ?_, ?_⟩
      · simp only [List.forall_mem_cons]
        exact ⟨by omega, by omega, by omega, by omega, hvalues⟩
      · rw [encode, htext]
        rfl
      · simp only [encode, List.length_cons]
        omega
      · simp only [List.flatMap_cons, hbits]
        simp only [← List.append_assoc, bits_three hb hc]

/-- **What is written for bytes is their base64 text.** -/
theorem isTextOf_encode (bs : Bytes) : IsTextOf bs (encode bs) := by
  obtain ⟨values, marks, hvalues, htext, hmarks, hlength, hbits⟩ := exists_values_encode bs
  refine ⟨values.map digit, values, marks, htext, hmarks, hlength, ?_, hbits⟩
  rw [List.map_map]
  exact List.map_congr_left fun n hn => (getElem?_alphabet n (hvalues n hn)).symm

/-! ## Reading -/

theorem oneByte_digits (a : UInt8) :
    oneByte (digit (a.toNat / 4)) (digit (a.toNat % 4 * 16)) = some ([a], 0) := by
  have ha := a.toNat_lt
  have hbyte : a.toNat / 4 * 4 + a.toNat % 4 * 16 / 16 = a.toNat := by omega
  have hleft : a.toNat % 4 * 16 % 16 = 0 := by omega
  rw [oneByte, value?_digit _ (by omega), value?_digit _ (by omega)]
  simp only [Option.bind_eq_bind, Option.bind_some, hbyte, hleft, UInt8.ofNat_toNat]

theorem twoBytes_digits (a b : UInt8) :
    twoBytes (digit (a.toNat / 4)) (digit (a.toNat % 4 * 16 + b.toNat / 16))
      (digit (b.toNat % 16 * 4)) = some ([a, b], 0) := by
  have ha := a.toNat_lt
  have hb := b.toNat_lt
  have hfirst : a.toNat / 4 * 4 + (a.toNat % 4 * 16 + b.toNat / 16) / 16 = a.toNat := by omega
  have hsecond :
      (a.toNat % 4 * 16 + b.toNat / 16) % 16 * 16 + b.toNat % 16 * 4 / 4 = b.toNat := by omega
  have hleft : b.toNat % 16 * 4 % 4 = 0 := by omega
  rw [twoBytes, value?_digit _ (by omega), value?_digit _ (by omega), value?_digit _ (by omega)]
  simp only [Option.bind_eq_bind, Option.bind_some, hfirst, hsecond, hleft, UInt8.ofNat_toNat]

theorem threeBytes_digits (a b c : UInt8) :
    threeBytes (digit (a.toNat / 4)) (digit (a.toNat % 4 * 16 + b.toNat / 16))
      (digit (b.toNat % 16 * 4 + c.toNat / 64)) (digit (c.toNat % 64)) = some [a, b, c] := by
  have ha := a.toNat_lt
  have hb := b.toNat_lt
  have hc := c.toNat_lt
  have hfirst : a.toNat / 4 * 4 + (a.toNat % 4 * 16 + b.toNat / 16) / 16 = a.toNat := by omega
  have hsecond : (a.toNat % 4 * 16 + b.toNat / 16) % 16 * 16 +
      (b.toNat % 16 * 4 + c.toNat / 64) / 4 = b.toNat := by omega
  have hthird : (b.toNat % 16 * 4 + c.toNat / 64) % 4 * 64 + c.toNat % 64 = c.toNat := by omega
  rw [threeBytes, value?_digit _ (by omega), value?_digit _ (by omega), value?_digit _ (by omega),
    value?_digit _ (by omega)]
  simp only [Option.bind_eq_bind, Option.bind_some, hfirst, hsecond, hthird, UInt8.ofNat_toNat]

/-- **Reading gives back the bytes that were written.** -/
theorem decode?_encode (bs : Bytes) : decode? (encode bs) = some bs := by
  induction bs using encode.induct with
  | case1 => rfl
  | case2 a => rw [encode, decode?, oneByte_digits, exact]
  | case3 a b =>
      -- The third character is a digit, so this is not the padding of a single byte.
      have hmark := digit_ne_mark (b.toNat % 16 * 4) (by omega)
      rw [encode, decode?, twoBytes_digits, exact]
      exact hmark
  | case4 a b c rest ih =>
      -- The last character of a full group is a digit, so the group is not a padded one.
      have hmark := digit_ne_mark (c.toNat % 64) (by omega)
      rw [encode, decode?, threeBytes_digits, ih]
      · rfl
      · exact fun _ h => absurd h hmark
      · exact fun h => absurd h hmark

/-- Different bytes have different texts. -/
theorem encode_inj {bs bs' : Bytes} : encode bs = encode bs' ↔ bs = bs' := by
  constructor
  · intro h
    have hread : decode? (encode bs) = decode? (encode bs') := by rw [h]
    simpa only [decode?_encode, Option.some.injEq] using hread
  · exact congrArg encode

theorem toBytes?_ofBytes (bs : Bytes) : toBytes? (ofBytes bs) = some bs := by
  rw [toBytes?, ofBytes, String.toList_ofList, decode?_encode]

theorem ofBytes_inj {bs bs' : Bytes} : ofBytes bs = ofBytes bs' ↔ bs = bs' := by
  rw [ofBytes, ofBytes, String.ofList_inj, encode_inj]

end ScimLookup.Base64
