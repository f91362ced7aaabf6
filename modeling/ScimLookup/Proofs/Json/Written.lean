import ScimLookup.Json.Value
import ScimLookup.Proofs.Json.Spelling

/-!
# Written values read back

A value is held by one document (`Doc.ofValue`). Both written forms of the value spell this document:
the compact one (`Value.spells_written`) and the one on lines (`Value.spells_laidOut`). So the document
is read from either (`Document.ofBytes_compact`, `Document.ofBytes_pretty`).
-/

set_option autoImplicit false

namespace ScimLookup.Json

/-! ## Documents of values -/

mutual

/-- The document that holds a value. -/
def Doc.ofValue : Value → Doc
  | .null => .null
  | .bool b => .bool b
  | .number n => .number (.ofInt n)
  | .string s => .string ⟨.ok s, none⟩
  | .array items => .array (Doc.ofItems items) none
  | .object members => .object (Doc.ofMembers members) none

/-- The documents that hold the items of an array. -/
def Doc.ofItems : List Value → List Doc
  | [] => []
  | v :: vs => Doc.ofValue v :: Doc.ofItems vs

/-- The documents that hold the members of an object. -/
def Doc.ofMembers : List (String × Value) → List (Doc × Doc)
  | [] => []
  | m :: ms => Doc.ofMember m :: Doc.ofMembers ms

/-- The documents of a name and its value. -/
def Doc.ofMember : String × Value → Doc × Doc
  | (name, v) => (.string ⟨.ok name, none⟩, Doc.ofValue v)

end

/-! ## ASCII marks -/

theorem encode_mark {c : Char} (h : c.toNat < 0x80) (cs : List Char) :
    Utf8.encode (c :: cs) = UInt8.ofNat c.toNat :: Utf8.encode cs := by
  rw [Utf8.encode_cons, Utf8.encodeChar_of_lt h]
  rfl

/-- The bytes of a text between two marks. -/
theorem encode_between {c d : Char} (hc : c.toNat < 0x80) (hd : d.toNat < 0x80) (cs : List Char) :
    Utf8.encode (c :: (cs ++ [d])) =
      UInt8.ofNat c.toNat :: (Utf8.encode cs ++ [UInt8.ofNat d.toNat]) := by
  rw [encode_mark hc, Utf8.encode_append, encode_mark hd]
  rfl

/-- The bytes of two texts with a mark in between. -/
theorem encode_joined {c : Char} (h : c.toNat < 0x80) (cs ds : List Char) :
    Utf8.encode (cs ++ c :: ds) = Utf8.encode cs ++ UInt8.ofNat c.toNat :: Utf8.encode ds := by
  rw [Utf8.encode_append, encode_mark h]

/-! ## Simple values -/

theorem Spells.ofBool (b : Bool) :
    Spells (.doc (Doc.ofValue (.bool b))) (Utf8.encode (Value.boolWord b)) := by
  have hbytes : Utf8.encode (Value.boolWord b) = boolBytes b := by
    cases b with
    | true => decide
    | false => decide
  rw [hbytes]
  exact .bool b

theorem Spells.ofNumber (n : Int) :
    Spells (.doc (Doc.ofValue (.number n))) (Utf8.encode (Decimal.ofInt n)) := by
  rw [Doc.ofValue, ← readNumeral_ofInt n]
  exact .numeral (isNumeral_ofInt n)

theorem Spells.ofString (s : String) :
    Spells (.doc (Doc.ofValue (.string s))) (Utf8.encode (writeString s)) := by
  rw [Doc.ofValue, ← pieceText_chars s, encode_writeString]
  exact .string (spellsPieces_chars s.toList)

/-! ## Compact form -/

mutual

/-- **The compact form spells the value.** -/
theorem Value.spells_written (v : Value) : Spells (.doc (Doc.ofValue v)) (Utf8.encode v.written) := by
  cases v with
  | null =>
      rw [Value.written]
      exact Spells.null
  | bool b =>
      rw [Value.written]
      exact Spells.ofBool b
  | number n =>
      rw [Value.written]
      exact Spells.ofNumber n
  | string s =>
      rw [Value.written]
      exact Spells.ofString s
  | array items =>
      rw [Value.written, encode_between (by decide) (by decide)]
      exact Spells.array (Value.spells_writtenItems items)
  | object members =>
      rw [Value.written, encode_between (by decide) (by decide)]
      exact Spells.object (Value.spells_writtenMembers members)

theorem Value.spells_writtenItems (vs : List Value) :
    Spells (.items (Doc.ofItems vs)) (Utf8.encode (Value.writtenItems vs)) := by
  cases vs with
  | nil =>
      rw [Value.writtenItems]
      exact Spells.noItems
  | cons v vs =>
      have hv := Value.spells_written v
      have hvs := Value.spells_writtenItems vs
      cases vs with
      | nil =>
          rw [Value.writtenItems]
          exact hv.lastItem
      | cons w vs =>
          rw [Value.writtenItems, encode_joined (by decide)]
          · exact hv.moreItems hvs
          · exact List.cons_ne_nil w vs

theorem Value.spells_writtenMembers (ms : List (String × Value)) :
    Spells (.members (Doc.ofMembers ms)) (Utf8.encode (Value.writtenMembers ms)) := by
  cases ms with
  | nil =>
      rw [Value.writtenMembers]
      exact Spells.noMembers
  | cons m ms =>
      obtain ⟨name, v⟩ := m
      have hv := Value.spells_written v
      have hms := Value.spells_writtenMembers ms
      cases ms with
      | nil =>
          rw [Value.writtenMembers, Value.writtenMember, encode_joined (by decide)]
          exact (Spells.ofString name).lastMember hv
      | cons m ms =>
          rw [Value.writtenMembers, Value.writtenMember, List.append_assoc, List.cons_append,
            encode_joined (by decide), encode_joined (by decide)]
          · exact (Spells.ofString name).moreMembers hv hms
          · exact List.cons_ne_nil m ms

end

/-- **A document is read from the compact text of its value.** -/
theorem Document.ofBytes_compact (v : Value) :
    Document.ofBytes (Utf8.ofString v.compact) = ⟨Doc.ofValue v, true⟩ := by
  rw [Value.compact, Utf8.ofString, String.toList_ofList]
  exact Document.ofBytes_of_spells v.spells_written

/-! ## Form on lines -/

/-- White space in front of a part. -/
theorem Spells.blanks_before {p : Part} {ws bs : Bytes} (h : Spells p bs)
    (hws : ∀ b ∈ ws, isBlank b = true) : Spells p (ws ++ bs) := by
  induction ws with
  | nil => exact h
  | cons b ws ih =>
      have hb : isBlank b = true := hws b List.mem_cons_self
      exact (ih fun c hc => hws c (List.mem_cons_of_mem b hc)).before hb

/-- White space behind a part. -/
theorem Spells.blanks_after {p : Part} {ws bs : Bytes} (h : Spells p bs)
    (hws : ∀ b ∈ ws, isBlank b = true) : Spells p (bs ++ ws) := by
  induction ws generalizing bs with
  | nil =>
      rw [List.append_nil]
      exact h
  | cons b ws ih =>
      have hb : isBlank b = true := hws b List.mem_cons_self
      have hback := ih (h.after hb) fun c hc => hws c (List.mem_cons_of_mem b hc)
      rwa [List.append_assoc, List.singleton_append] at hback

/-- The start of a line is white space. -/
theorem isBlank_of_mem_newLine {level : Nat} {b : UInt8}
    (h : b ∈ Utf8.encode (Value.newLine level)) : isBlank b = true := by
  rw [Utf8.encode, List.mem_flatMap] at h
  obtain ⟨c, hc, hb⟩ := h
  rw [Value.newLine, List.mem_cons] at hc
  rcases hc with rfl | hc
  · rw [Utf8.encodeChar_of_lt (by decide), List.mem_singleton] at hb
    rw [hb]
    decide
  · rw [List.eq_of_mem_replicate hc, Utf8.encodeChar_of_lt (by decide), List.mem_singleton] at hb
    rw [hb]
    decide

mutual

/-- **The form on lines spells the value.** -/
theorem Value.spells_laidOut (level : Nat) (v : Value) :
    Spells (.doc (Doc.ofValue v)) (Utf8.encode (v.laidOut level)) := by
  match v with
  | .null =>
      rw [Value.laidOut]
      exact Spells.null
  | .bool b =>
      rw [Value.laidOut]
      exact Spells.ofBool b
  | .number n =>
      rw [Value.laidOut]
      exact Spells.ofNumber n
  | .string s =>
      rw [Value.laidOut]
      exact Spells.ofString s
  | .array [] =>
      rw [Value.laidOut]
      exact Spells.noItems.array
  | .array (v :: vs) =>
      have hitems := Value.spells_laidOutItems (level + 1) v vs
      rw [Value.laidOut, encode_between (by decide) (by decide), Utf8.encode_append]
      exact (hitems.blanks_after fun b hb => isBlank_of_mem_newLine hb).array
  | .object [] =>
      rw [Value.laidOut]
      exact Spells.noMembers.object
  | .object ((name, v) :: ms) =>
      have hmembers := Value.spells_laidOutMembers (level + 1) name v ms
      rw [Value.laidOut, encode_between (by decide) (by decide), Utf8.encode_append]
      exact (hmembers.blanks_after fun b hb => isBlank_of_mem_newLine hb).object
termination_by 2 * sizeOf v

theorem Value.spells_laidOutItems (level : Nat) (v : Value) (vs : List Value) :
    Spells (.items (Doc.ofItems (v :: vs)))
      (Utf8.encode (Value.laidOutItem level v ++ Value.laidOutItems level vs)) := by
  have hv : Spells (.doc (Doc.ofValue v)) (Utf8.encode (Value.laidOutItem level v)) := by
    rw [Value.laidOutItem, Utf8.encode_append]
    exact (Value.spells_laidOut level v).blanks_before fun b hb => isBlank_of_mem_newLine hb
  match vs with
  | [] =>
      rw [Value.laidOutItems, List.append_nil]
      exact hv.lastItem
  | w :: vs =>
      have hitems := Value.spells_laidOutItems level w vs
      rw [Value.laidOutItems, encode_joined (by decide)]
      exact hv.moreItems hitems
termination_by 2 * (sizeOf v + sizeOf vs) + 1

theorem Value.spells_laidOutMembers (level : Nat) (name : String) (v : Value)
    (ms : List (String × Value)) :
    Spells (.members (Doc.ofMembers ((name, v) :: ms)))
      (Utf8.encode (Value.laidOutMember level (name, v) ++ Value.laidOutMembers level ms)) := by
  have hkey : Spells (.doc (Doc.ofValue (.string name)))
      (Utf8.encode (Value.newLine level) ++ Utf8.encode (writeString name)) :=
    (Spells.ofString name).blanks_before fun b hb => isBlank_of_mem_newLine hb
  have hv : Spells (.doc (Doc.ofValue v)) (0x20 :: Utf8.encode (v.laidOut level)) :=
    (Value.spells_laidOut level v).before (by decide)
  match ms with
  | [] =>
      rw [Value.laidOutMembers, List.append_nil, Value.laidOutMember, ← List.append_assoc,
        encode_joined (by decide), encode_mark (by decide), Utf8.encode_append]
      exact hkey.lastMember hv
  | (next, w) :: ms =>
      have hmembers := Value.spells_laidOutMembers level next w ms
      rw [Value.laidOutMembers, encode_joined (by decide), Value.laidOutMember,
        ← List.append_assoc, encode_joined (by decide), encode_mark (by decide),
        Utf8.encode_append, List.append_assoc, List.cons_append]
      exact hkey.moreMembers hv hmembers
termination_by 2 * (sizeOf v + sizeOf ms) + 1

end

/-- **A document is read from the text of its value on lines.** -/
theorem Document.ofBytes_pretty (v : Value) :
    Document.ofBytes (Utf8.ofString v.pretty) = ⟨Doc.ofValue v, true⟩ := by
  rw [Value.pretty, Utf8.ofString, String.toList_ofList]
  exact Document.ofBytes_of_spells (v.spells_laidOut 0)

/-- The end of the last line makes no difference. -/
theorem Document.ofBytes_line (v : Value) :
    Document.ofBytes (Utf8.ofString (v.pretty ++ "\n")) = ⟨Doc.ofValue v, true⟩ := by
  have hend : "\n".toList = Value.newLine 0 := rfl
  rw [Utf8.ofString, String.toList_append, Utf8.encode_append, Value.pretty, String.toList_ofList, hend]
  exact Document.ofBytes_of_spells
    ((v.spells_laidOut 0).blanks_after fun b hb => isBlank_of_mem_newLine hb)

end ScimLookup.Json
