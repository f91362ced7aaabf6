import ScimLookup.Json.Document
import ScimLookup.Json.Value
import ScimLookup.Proofs.Bytes.Utf8

/-!
# Strings

The grammar of what stands between the marks of a string (`SpellsPieces`): bytes that stand for
themselves, escaped letters, and units by their number. It is read as its pieces, whatever follows the
closing mark (`SpellsPieces.readQuoted_eq`). The pieces of a written character are one of the three
(`spellsPieces_writeChar`) and hold the bytes of the character (`pieceBytes_charPieces`); so a string
that is written is read as this string (`pieceText_chars`).
-/

set_option autoImplicit false

namespace ScimLookup.Json

/-! ## Grammar -/

/-- A byte that stands for itself inside a string. -/
def isFree (b : UInt8) : Bool :=
  decide (0x20 ≤ b.toNat) && b != 0x22 && b != 0x5C

theorem readPieces_free {b : UInt8} (h : isFree b = true) (bs : Bytes) :
    readPieces (b :: bs) = (.byte b :: (readPieces bs).1, (readPieces bs).2) := by
  simp only [isFree, Bool.and_eq_true, decide_eq_true_eq, bne_iff_ne] at h
  obtain ⟨⟨hlow, hquote⟩, hslash⟩ := h
  -- The byte is neither of the two that mean something, so the last case is left.
  rw [readPieces.eq_def]
  split
  · rename_i heq
    cases heq
  · rename_i heq
    cases heq
    exact absurd rfl hquote
  · rename_i heq
    cases heq
    exact absurd rfl hslash
  · rename_i heq
    cases heq
    exact absurd rfl hslash
  · rename_i heq
    cases heq
    exact absurd rfl hslash
  · rename_i heq
    cases heq
    exact absurd rfl hslash
  · rename_i heq
    cases heq
    rw [if_neg (by omega)]

/-- The bytes between the marks of a string spell these pieces. They may be no UTF-8, and the units
may be halves of no pair. -/
inductive SpellsPieces : List Piece → Bytes → Prop where
  | nil : SpellsPieces [] []
  | byte {b : UInt8} {ps : List Piece} {bs : Bytes} (free : isFree b = true)
      (pieces : SpellsPieces ps bs) : SpellsPieces (.byte b :: ps) (b :: bs)
  | escaped {e b : UInt8} {ps : List Piece} {bs : Bytes} (letter : escapeByte? e = some b)
      (pieces : SpellsPieces ps bs) : SpellsPieces (.escaped b :: ps) (0x5C :: e :: bs)
  | unit {a b c d : UInt8} {n : Nat} {ps : List Piece} {bs : Bytes}
      (digits : unitValue? a b c d = some n) (pieces : SpellsPieces ps bs) :
      SpellsPieces (.unit n :: ps) (0x5C :: 0x75 :: a :: b :: c :: d :: bs)

/-- **The pieces are read up to the closing mark.** -/
theorem SpellsPieces.readPieces_eq {ps : List Piece} {bs : Bytes} (h : SpellsPieces ps bs)
    (rest : Bytes) : readPieces (bs ++ 0x22 :: rest) = (ps, .ok rest) := by
  induction h with
  | nil => rfl
  | byte free pieces ih => rw [List.cons_append, readPieces_free free, ih]
  | @escaped e b ps bs letter pieces ih =>
      have hunit : e ≠ 0x75 := by
        rintro rfl
        cases letter
      rw [List.cons_append, List.cons_append, readPieces, letter, ih]
      · exact fun _ _ _ _ _ he _ => hunit he
      · exact hunit
  | unit digits pieces ih =>
      simp only [List.cons_append]
      rw [readPieces, digits, ih]

/-- A string is read up to its closing mark, whatever follows. -/
theorem SpellsPieces.readQuoted_eq {ps : List Piece} {bs : Bytes} (h : SpellsPieces ps bs)
    (rest : Bytes) : readQuoted (bs ++ 0x22 :: rest) = (⟨pieceText none ps, none⟩, rest) := by
  rw [readQuoted, h.readPieces_eq]

theorem SpellsPieces.append {ps qs : List Piece} {bs cs : Bytes} (h : SpellsPieces ps bs)
    (h' : SpellsPieces qs cs) : SpellsPieces (ps ++ qs) (bs ++ cs) := by
  induction h with
  | nil => exact h'
  | byte free pieces ih => exact .byte free ih
  | escaped letter pieces ih => exact .escaped letter ih
  | unit digits pieces ih => exact .unit digits ih

theorem spellsPieces_bytes {bs : Bytes} (h : ∀ b ∈ bs, isFree b = true) :
    SpellsPieces (bs.map .byte) bs := by
  induction bs with
  | nil => exact .nil
  | cons b bs ih =>
      exact .byte (h b List.mem_cons_self) (ih fun x hx => h x (List.mem_cons_of_mem b hx))

/-! ## Written characters -/

/-- The pieces that the written form of a character is read as. -/
def charPieces (c : Char) : List Piece :=
  if (escapeLetter? c).isSome then [.escaped (UInt8.ofNat c.toNat)]
  else if c.toNat < 0x20 then [.unit c.toNat]
  else (String.utf8EncodeChar c).map .byte

/-- The letter of a character stands for its byte. -/
theorem escapeLetter?_facts {c letter : Char} (h : escapeLetter? c = some letter) :
    Utf8.encode ['\\', letter] = [0x5C, UInt8.ofNat letter.toNat] ∧
      escapeByte? (UInt8.ofNat letter.toNat) = some (UInt8.ofNat c.toNat) ∧ c.toNat < 0x80 := by
  rw [escapeLetter?] at h
  -- One case for each letter; the last one is for the characters that have none.
  repeat' split at h
  all_goals cases h
  all_goals
    subst_vars
    decide

/-- The escape of a control character by its number. -/
theorem control_facts : ∀ n < 0x20,
    Utf8.encode ['\\', 'u', '0', '0', hexDigit (n / 16), hexDigit (n % 16)] =
      [0x5C, 0x75, 0x30, 0x30, UInt8.ofNat (hexDigit (n / 16)).toNat,
        UInt8.ofNat (hexDigit (n % 16)).toNat] ∧
    unitValue? 0x30 0x30 (UInt8.ofNat (hexDigit (n / 16)).toNat)
      (UInt8.ofNat (hexDigit (n % 16)).toNat) = some n := by
  decide +kernel

/-- The bytes of a character that is not escaped stand for themselves. -/
theorem isFree_of_mem {c : Char} (hletter : escapeLetter? c = none) (hlow : 0x20 ≤ c.toNat)
    {b : UInt8} (h : b ∈ String.utf8EncodeChar c) : isFree b = true := by
  have hquote : c ≠ '\x22' := by
    rintro rfl
    cases hletter
  have hslash : c ≠ '\\' := by
    rintro rfl
    cases hletter
  have hwide : 0x80 ≤ b.toNat → isFree b = true := by
    intro hb
    have hne : b ≠ 0x22 ∧ b ≠ 0x5C := by
      refine ⟨?_, ?_⟩
      · rintro rfl
        exact absurd hb (by decide)
      · rintro rfl
        exact absurd hb (by decide)
    simp only [isFree, Bool.and_eq_true, decide_eq_true_eq, bne_iff_ne]
    exact ⟨⟨by omega, hne.1⟩, hne.2⟩
  -- The one byte of an ASCII character is its number; the bytes of others are beyond ASCII.
  by_cases hlt : c.toNat < 0x80
  · rw [Utf8.encodeChar_of_lt hlt, List.mem_singleton] at h
    have hb : b.toNat = c.toNat := by
      rw [h, Utf8.toNat_ofNat (by omega)]
    simp only [isFree, Bool.and_eq_true, decide_eq_true_eq, bne_iff_ne]
    refine ⟨⟨by omega, ?_⟩, ?_⟩
    · rintro rfl
      exact hquote (Char.toNat_inj.1 hb.symm)
    · rintro rfl
      exact hslash (Char.toNat_inj.1 hb.symm)
  · exact hwide (Utf8.le_of_mem_encodeChar (by omega) h)

/-- **A written character spells its pieces.** -/
theorem spellsPieces_writeChar (c : Char) :
    SpellsPieces (charPieces c) (Utf8.encode (writeChar c)) := by
  rw [writeChar, charPieces]
  cases hletter : escapeLetter? c with
  | some letter =>
      obtain ⟨hbytes, hbyte, -⟩ := escapeLetter?_facts hletter
      show SpellsPieces _ (Utf8.encode ['\\', letter])
      rw [hbytes]
      exact .escaped hbyte .nil
  | none =>
      simp only [Option.isSome_none, Bool.false_eq_true, if_false]
      by_cases hlow : c.toNat < 0x20
      · obtain ⟨hbytes, hvalue⟩ := control_facts c.toNat hlow
        rw [if_pos hlow, if_pos hlow, hbytes]
        exact .unit hvalue .nil
      · have hfree : ∀ b ∈ String.utf8EncodeChar c, isFree b = true := by
          intro b hb
          exact isFree_of_mem hletter (by omega) hb
        have hnil : Utf8.encode [] = [] := rfl
        rw [if_neg hlow, if_neg hlow, Utf8.encode_cons, hnil, List.append_nil]
        exact spellsPieces_bytes hfree

theorem spellsPieces_chars (cs : List Char) :
    SpellsPieces (cs.flatMap charPieces) (Utf8.encode (cs.flatMap writeChar)) := by
  induction cs with
  | nil => exact .nil
  | cons c cs ih =>
      rw [List.flatMap_cons, List.flatMap_cons, Utf8.encode_append]
      exact (spellsPieces_writeChar c).append ih

/-! ## Bytes of pieces -/

theorem pieceBytes_bytes (fault : Option Fault) (bs : Bytes) (ps : List Piece) :
    pieceBytes fault (bs.map .byte ++ ps) = (pieceBytes fault ps).map (bs ++ ·) := by
  induction bs with
  | nil =>
      rw [List.map_nil, List.nil_append]
      cases pieceBytes fault ps with
      | error f => rfl
      | ok rest => rfl
  | cons b bs ih =>
      rw [List.map_cons, List.cons_append, pieceBytes, ih]
      cases pieceBytes fault ps with
      | error f => rfl
      | ok rest => rfl

/-- A unit that is no half of a pair is the character of its number. -/
theorem pieceBytes_unit {n : Nat} (h : n < 0xD800) (fault : Option Fault) (ps : List Piece) :
    pieceBytes fault (.unit n :: ps) =
      (pieceBytes fault ps).map (String.utf8EncodeChar (Char.ofNat n) ++ ·) := by
  have hhigh : isHigh n = false := by
    rw [isHigh, decide_eq_false_iff_not]
    omega
  have hlow : isLow n = false := by
    rw [isLow, decide_eq_false_iff_not]
    omega
  -- Whatever follows is looked at only behind the first half of a pair.
  rcases ps with _ | ⟨p, ps⟩
  · rw [pieceBytes, hhigh, hlow]
    cases pieceBytes fault [] with
    | error f => rfl
    | ok rest => rfl
  · have hrest : pieceBytes fault (.unit n :: p :: ps) =
        (pieceBytes fault (p :: ps)).bind fun rest =>
          .ok (String.utf8EncodeChar (Char.ofNat n) ++ rest) := by
      cases p with
      | unit m =>
          rw [pieceBytes, hhigh, hlow]
          rfl
      | byte b =>
          rw [pieceBytes.eq_def]
          simp only [hhigh, hlow]
          rfl
      | escaped b =>
          rw [pieceBytes.eq_def]
          simp only [hhigh, hlow]
          rfl
    rw [hrest]
    cases pieceBytes fault (p :: ps) with
    | error f => rfl
    | ok rest => rfl

/-- **The pieces of a character hold its bytes.** -/
theorem pieceBytes_charPieces (c : Char) (fault : Option Fault) (ps : List Piece) :
    pieceBytes fault (charPieces c ++ ps) =
      (pieceBytes fault ps).map (String.utf8EncodeChar c ++ ·) := by
  rw [charPieces]
  cases hletter : escapeLetter? c with
  | some letter =>
      have hbyte : String.utf8EncodeChar c = [UInt8.ofNat c.toNat] :=
        Utf8.encodeChar_of_lt (escapeLetter?_facts hletter).2.2
      rw [hbyte]
      simp only [Option.isSome_some, if_true, List.singleton_append]
      rw [pieceBytes]
      cases pieceBytes fault ps with
      | error f => rfl
      | ok rest => rfl
  | none =>
      simp only [Option.isSome_none, Bool.false_eq_true, if_false]
      by_cases hlow : c.toNat < 0x20
      · rw [if_pos hlow, List.singleton_append, pieceBytes_unit (by omega), Char.ofNat_toNat]
      · rw [if_neg hlow, pieceBytes_bytes]

/-! ## Written strings -/

theorem pieceBytes_chars (cs : List Char) :
    pieceBytes none (cs.flatMap charPieces) = .ok (Utf8.encode cs) := by
  induction cs with
  | nil => rfl
  | cons c cs ih =>
      rw [List.flatMap_cons, pieceBytes_charPieces, ih, Utf8.encode_cons]
      rfl

/-- **The pieces of a written string are its text.** -/
theorem pieceText_chars (s : String) : pieceText none (s.toList.flatMap charPieces) = .ok s := by
  have htext : Utf8.toString? (Utf8.encode s.toList) = some s := Utf8.toString?_ofString s
  rw [pieceText, pieceBytes_chars]
  simp only [bind, Except.bind, htext]
  rfl

/-- The written form of a string is its characters between two marks. -/
theorem encode_writeString (s : String) :
    Utf8.encode (writeString s) = 0x22 :: (Utf8.encode (s.toList.flatMap writeChar) ++ [0x22]) := by
  have hmark : String.utf8EncodeChar '\x22' = [0x22] := by decide
  have hend : Utf8.encode ['\x22'] = [0x22] := by decide
  rw [writeString, Utf8.encode_cons, Utf8.encode_append, hmark, hend]
  rfl

end ScimLookup.Json
