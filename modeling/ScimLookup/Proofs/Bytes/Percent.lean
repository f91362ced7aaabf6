import ScimLookup.Bytes.Percent
import ScimLookup.Proofs.Bytes.Utf8

/-!
# Escapes read back

A byte that is escaped is read as this byte, whatever follows (`decode_escape`), and a byte other
than the percent sign stands for itself (`decode_cons`). A text falls into parts before every byte
that is no digit, and the parts are read one by one (`decode_append`).
-/

set_option autoImplicit false

namespace ScimLookup.Percent

/-- What holds of the hexadecimal digits: they are ASCII, they read back, and they are none of the
characters that mean something around escapes. -/
theorem hexDigit_facts : ∀ n < 16, (hexDigit n).toNat < 0x80 ∧
    hexValue? (hexDigit n).toNat = some n ∧ hexDigit n ∉ ['&', '=', '+', '%', ' '] := by
  decide

theorem decode_cons {b : UInt8} (h : b ≠ 0x25) (bs : Bytes) : decode (b :: bs) = b :: decode bs := by
  rw [decode]
  rintro hi lo rest rfl
  exact absurd rfl h

/-- Two digits of a byte stand for it. -/
theorem pair?_hexDigit (b : UInt8) :
    pair? (UInt8.ofNat (hexDigit (b.toNat / 16)).toNat)
      (UInt8.ofNat (hexDigit (b.toNat % 16)).toNat) = some b := by
  have hb : b.toNat < 256 := b.toNat_lt
  obtain ⟨hhi, hhiBack, -⟩ := hexDigit_facts (b.toNat / 16) (by omega)
  obtain ⟨hlo, hloBack, -⟩ := hexDigit_facts (b.toNat % 16) (by omega)
  have hwhole : b.toNat / 16 * 16 + b.toNat % 16 = b.toNat := by omega
  rw [pair?, Utf8.toNat_ofNat (by omega), Utf8.toNat_ofNat (by omega), hhiBack, hloBack]
  simp only [Option.bind_eq_bind, Option.bind_some]
  rw [hwhole, UInt8.ofNat_toNat]

/-- **An escaped byte is read as this byte.** -/
theorem decode_escape (b : UInt8) (bs : Bytes) :
    decode (Utf8.encode (escape b) ++ bs) = b :: decode bs := by
  have hb : b.toNat < 256 := b.toNat_lt
  have hhi := (hexDigit_facts (b.toNat / 16) (by omega)).1
  have hlo := (hexDigit_facts (b.toNat % 16) (by omega)).1
  have hbytes : Utf8.encode (escape b) = [0x25, UInt8.ofNat (hexDigit (b.toNat / 16)).toNat,
      UInt8.ofNat (hexDigit (b.toNat % 16)).toNat] := by
    rw [escape, Utf8.encode_cons, Utf8.encode_cons, Utf8.encode_cons, Utf8.encodeChar_of_lt hhi,
      Utf8.encodeChar_of_lt hlo]
    rfl
  rw [hbytes, List.cons_append, List.cons_append, List.cons_append, List.nil_append, decode,
    pair?_hexDigit]

theorem decode_escapes (bs rest : Bytes) :
    decode (Utf8.encode (bs.flatMap escape) ++ rest) = bs ++ decode rest := by
  induction bs with
  | nil => rfl
  | cons b bs ih =>
      rw [List.flatMap_cons, Utf8.encode_append, List.append_assoc, decode_escape, ih,
        List.cons_append]

/-- No escape goes on over a byte that is no digit. -/
theorem decode_append {b : UInt8} (hb : hexValue? b.toNat = none) (bs cs : Bytes) :
    decode (bs ++ b :: cs) = decode bs ++ decode (b :: cs) := by
  have hpair : ∀ hi : UInt8, pair? hi b = none := by
    intro hi
    rw [pair?, hb]
    cases hexValue? hi.toNat <;> rfl
  have hpair' : ∀ lo : UInt8, pair? b lo = none := by
    intro lo
    rw [pair?, hb]
    rfl
  fun_induction decode bs with
  | case1 hi lo rest c hc ih =>
      simp only [List.cons_append]
      rw [decode, hc]
      exact congrArg (c :: ·) ih
  | case2 hi lo rest hc ih =>
      simp only [List.cons_append] at ih ⊢
      rw [decode, hc]
      exact congrArg (0x25 :: ·) ih
  | case3 c rest hshort ih =>
      rw [List.cons_append]
      by_cases hc : c = 0x25
      · subst hc
        -- Fewer than two bytes follow the percent sign, so this byte would be a digit.
        match rest, hshort with
        | [], _ =>
            have hlast : decode (0x25 :: b :: cs) = 0x25 :: decode (b :: cs) := by
              cases cs with
              | nil => simp [decode]
              | cons c cs => rw [decode, hpair']
            exact hlast.trans (congrArg (0x25 :: ·) ih)
        | [hi], _ =>
            rw [List.cons_append, List.nil_append, decode, hpair hi]
            exact congrArg (0x25 :: ·) ih
        | hi :: lo :: rest, hshort => exact absurd rfl (hshort hi lo rest rfl)
      · rw [decode_cons hc, ih, List.cons_append]
  | case4 => rfl

theorem decode_singleton (b : UInt8) : decode [b] = [b] := by
  by_cases hb : b = 0x25
  · rw [hb]
    rfl
  · exact decode_cons hb []

/-- Bytes that are no digits stand for themselves and are read apart from what is before them. -/
theorem decode_append_plain {bs : Bytes} (hne : bs ≠ [])
    (hbs : ∀ b ∈ bs, b ≠ 0x25 ∧ hexValue? b.toNat = none) (xs ys : Bytes) :
    decode (xs ++ (bs ++ ys)) = decode xs ++ (bs ++ decode ys) := by
  have hplain : ∀ cs : Bytes, (∀ b ∈ cs, b ≠ 0x25) → decode (cs ++ ys) = cs ++ decode ys := by
    intro cs hcs
    induction cs with
    | nil => rfl
    | cons c cs ih =>
        rw [List.cons_append, decode_cons (hcs c List.mem_cons_self),
          ih fun b hb => hcs b (List.mem_cons_of_mem c hb), List.cons_append]
  cases bs with
  | nil => exact absurd rfl hne
  | cons b bs =>
      rw [List.cons_append, decode_append (hbs b List.mem_cons_self).2, ← List.cons_append,
        hplain (b :: bs) fun c hc => (hbs c hc).1]

/-- The bytes of a character that is no percent sign and no digit are neither. -/
theorem bytes_plain {c : Char} (hc : c ≠ '%') (hdigit : hexValue? c.toNat = none) :
    ∀ b ∈ String.utf8EncodeChar c, b ≠ 0x25 ∧ hexValue? b.toNat = none := by
  intro b hb
  by_cases hlt : c.toNat < 0x80
  · rw [Utf8.encodeChar_of_lt hlt, List.mem_singleton] at hb
    have hbyte : b.toNat = c.toNat := by rw [hb, Utf8.toNat_ofNat (by omega)]
    refine ⟨?_, by rw [hbyte, hdigit]⟩
    rintro rfl
    exact hc (Char.toNat_inj.1 hbyte.symm)
  · have hle : 0x80 ≤ b.toNat := Utf8.le_of_mem_encodeChar (by omega) hb
    refine ⟨?_, ?_⟩
    · rintro rfl
      exact absurd hle (by decide)
    · rw [hexValue?, if_neg (by omega), if_neg (by omega), if_neg (by omega)]

/-- Escapes start with a percent sign. -/
theorem encode_escapes {bs : Bytes} (hne : bs ≠ []) :
    ∃ rest, Utf8.encode (bs.flatMap escape) = 0x25 :: rest := by
  cases bs with
  | nil => exact absurd rfl hne
  | cons b bs =>
      have hsign : String.utf8EncodeChar '%' = [0x25] := by decide
      rw [List.flatMap_cons, escape, List.cons_append, Utf8.encode_cons, hsign]
      exact ⟨_, rfl⟩

theorem encode_eq_self {p : Char → Bool} {cs : List Char} (h : ∀ c ∈ cs, p c = false) :
    encode p cs = cs := by
  induction cs with
  | nil => rfl
  | cons c cs ih =>
      have hcons : encode p (c :: cs) =
          (if p c then (String.utf8EncodeChar c).flatMap escape else [c]) ++ encode p cs :=
        List.flatMap_cons
      rw [hcons, h c List.mem_cons_self, ih fun d hd => h d (List.mem_cons_of_mem c hd)]
      rfl

/-- **A text with escapes reads as the text does**, where neither percent signs nor digits are
escaped. -/
theorem decode_encode {p : Char → Bool}
    (hp : ∀ c, p c = true → c ≠ '%' ∧ hexValue? c.toNat = none) (xs : Bytes) (cs : List Char) :
    decode (xs ++ Utf8.encode (encode p cs)) = decode (xs ++ Utf8.encode cs) := by
  induction cs generalizing xs with
  | nil => rfl
  | cons c cs ih =>
      have hcons : encode p (c :: cs) =
          (if p c then (String.utf8EncodeChar c).flatMap escape else [c]) ++ encode p cs :=
        List.flatMap_cons
      rw [hcons, Utf8.encode_append, Utf8.encode_cons]
      split
      · rename_i hc
        obtain ⟨hsign, hdigit⟩ := hp c hc
        have hne : String.utf8EncodeChar c ≠ [] := String.utf8EncodeChar_ne_nil
        -- The escape starts with a percent sign, which is no digit either.
        obtain ⟨rest, hrest⟩ := encode_escapes hne
        have hcs := ih []
        rw [List.nil_append, List.nil_append] at hcs
        rw [decode_append_plain hne (bytes_plain hsign hdigit), hrest, List.cons_append,
          decode_append (by decide), ← List.cons_append, ← hrest, decode_escapes, hcs]
      · have hsingle : Utf8.encode [c] = String.utf8EncodeChar c := List.flatMap_singleton ..
        rw [hsingle, ← List.append_assoc, ← List.append_assoc]
        exact ih (xs ++ String.utf8EncodeChar c)

/-- Reading escapes makes a text no longer. -/
theorem length_decode_le (bs : Bytes) : (decode bs).length ≤ bs.length := by
  fun_induction decode bs with
  | case1 hi lo rest c hc ih => simp; omega
  | case2 hi lo rest hc ih => simpa using ih
  | case3 c rest hshort ih => simpa using ih
  | case4 => exact Nat.le_refl 0

/-- An escape holds none of the characters that mean something around it. -/
theorem not_mem_escape {c : Char} (hc : c ∈ ['&', '=', '+', ' ']) (b : UInt8) : c ∉ escape b := by
  have hb : b.toNat < 256 := b.toNat_lt
  have hhi := (hexDigit_facts (b.toNat / 16) (by omega)).2.2
  have hlo := (hexDigit_facts (b.toNat % 16) (by omega)).2.2
  -- The percent sign opens an escape, so it is the one character that is left out.
  have hall : c ∈ ['&', '=', '+', '%', ' '] := by
    simp only [List.mem_cons, List.not_mem_nil, or_false] at hc ⊢
    rcases hc with h | h | h | h
    · exact Or.inl h
    · exact Or.inr (Or.inl h)
    · exact Or.inr (Or.inr (Or.inl h))
    · exact Or.inr (Or.inr (Or.inr (Or.inr h)))
  intro hmem
  rw [escape, List.mem_cons, List.mem_cons, List.mem_singleton] at hmem
  rcases hmem with h | h | h
  · rw [h] at hc
    exact absurd hc (by decide)
  · exact hhi (h ▸ hall)
  · exact hlo (h ▸ hall)

end ScimLookup.Percent
