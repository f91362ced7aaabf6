import ScimLookup.Proofs.Bytes.Percent
import ScimLookup.Url.Form

/-!
# Forms read back

A form that is written from pairs is read as these pairs, whatever characters the names and values
hold (`decode_encode`). The written form of a text holds neither of the two characters that separate
texts (`not_mem_encodeText`), so a form falls into its pairs at every ampersand, and a pair into its
texts at the first equals sign; and each text reads back character by character
(`decode_encodeChar`).
-/

set_option autoImplicit false

namespace ScimLookup

namespace Text

/-- A text without the separator is one piece. -/
theorem pieces_of_not_mem {sep : Char} {cs : List Char} (h : sep ∉ cs) : pieces sep cs = [cs] := by
  induction cs with
  | nil => rfl
  | cons c cs ih =>
      have hc : c ≠ sep := by
        rintro rfl
        exact h List.mem_cons_self
      have hcs : pieces sep cs = [cs] := ih fun hmem => h (List.mem_cons_of_mem c hmem)
      rw [pieces, hcs]
      exact if_neg hc

/-- What stands before the first separator is the first piece. -/
theorem pieces_append {sep : Char} {xs : List Char} (h : sep ∉ xs) (ys : List Char) :
    pieces sep (xs ++ sep :: ys) = xs :: pieces sep ys := by
  induction xs with
  | nil =>
      rw [List.nil_append, pieces]
      split
      · rename_i hnil
        exact absurd hnil (pieces_ne_nil sep ys)
      · rename_i p ps hpieces
        rw [hpieces, if_pos rfl]
  | cons x xs ih =>
      have hx : x ≠ sep := by
        rintro rfl
        exact h List.mem_cons_self
      have hxs := ih fun hmem => h (List.mem_cons_of_mem x hmem)
      rw [List.cons_append, pieces, hxs]
      exact if_neg hx

/-- Letters and digits in the sense of ASCII. -/
theorem range_of_isAlphanum {c : Char} (h : c.isAlphanum = true) :
    (48 ≤ c.toNat ∧ c.toNat ≤ 57) ∨ (65 ≤ c.toNat ∧ c.toNat ≤ 90) ∨
      (97 ≤ c.toNat ∧ c.toNat ≤ 122) := by
  have hval : c.val.toNat = c.toNat := rfl
  change ((decide (c.val ≥ 65 ∧ c.val ≤ 90) ||
    (decide (c.val ≥ 97) && decide (c.val ≤ 122))) ||
    (decide (c.val ≥ 48) && decide (c.val ≤ 57))) = true at h
  simp only [Bool.or_eq_true, Bool.and_eq_true, decide_eq_true_eq, ge_iff_le,
    UInt32.le_iff_toNat_le, hval] at h
  rcases h with (hupper | hlower) | hdigit
  · exact Or.inr (Or.inl hupper)
  · exact Or.inr (Or.inr hlower)
  · exact Or.inl hdigit

end Text

namespace Form

/-! ## Texts -/

/-- What holds of a character that stands for itself: it is ASCII, and it means nothing else. -/
theorem isPlain_facts {c : Char} (h : isPlain c = true) :
    c.toNat < 0x80 ∧ c ∉ ['&', '=', '+', '%', ' '] := by
  have hcases : c.isAlphanum = true ∨ c = '*' ∨ c = '-' ∨ c = '.' ∨ c = '_' := by
    simpa [isPlain, or_assoc] using h
  rcases hcases with halnum | rfl | rfl | rfl | rfl
  · have hrange := Text.range_of_isAlphanum halnum
    refine ⟨by omega, ?_⟩
    intro hmem
    simp only [List.mem_cons, List.not_mem_nil, or_false] at hmem
    rcases hmem with rfl | rfl | rfl | rfl | rfl
    · exact absurd hrange (by decide)
    · exact absurd hrange (by decide)
    · exact absurd hrange (by decide)
    · exact absurd hrange (by decide)
    · exact absurd hrange (by decide)
  · decide
  · decide
  · decide
  · decide

/-- The written form of a character separates nothing. -/
theorem not_mem_encodeChar {sep : Char} (hsep : sep = '&' ∨ sep = '=') (c : Char) :
    sep ∉ encodeChar c := by
  have hmem : sep ∈ ['&', '=', '+', ' '] := by
    rcases hsep with rfl | rfl
    · decide
    · decide
  rw [encodeChar]
  -- A character is written as itself, as a plus sign or by escapes.
  split
  · rename_i hplain
    rw [List.mem_singleton]
    rintro rfl
    rcases hsep with rfl | rfl
    · exact absurd hplain (by decide)
    · exact absurd hplain (by decide)
  · split
    · rcases hsep with rfl | rfl
      · decide
      · decide
    · rw [List.mem_flatMap]
      rintro ⟨b, -, hb⟩
      exact Percent.not_mem_escape hmem b hb

theorem not_mem_encodeText {sep : Char} (hsep : sep = '&' ∨ sep = '=') (s : String) :
    sep ∉ encodeText s := by
  rw [encodeText, List.mem_flatMap]
  rintro ⟨c, -, hc⟩
  exact not_mem_encodeChar hsep c hc

/-- The written form of a text in which every plus sign stands for a space. -/
def spaced (cs : List Char) : List Char :=
  cs.map fun c => if c = '+' then ' ' else c

theorem spaced_append (cs ds : List Char) : spaced (cs ++ ds) = spaced cs ++ spaced ds :=
  List.map_append

theorem spaced_eq_self {cs : List Char} (h : '+' ∉ cs) : spaced cs = cs := by
  have hall : ∀ c ∈ cs, (if c = '+' then ' ' else c) = c := by
    intro c hc
    apply if_neg
    rintro rfl
    exact h hc
  rw [spaced, List.map_congr_left hall, List.map_id']

/-- **A character is read from its written form**, whatever follows. -/
theorem decode_encodeChar (c : Char) (bs : Bytes) :
    Percent.decode (Utf8.encode (spaced (encodeChar c)) ++ bs) =
      String.utf8EncodeChar c ++ Percent.decode bs := by
  have hself : ∀ d : Char, d.toNat < 0x80 → d ≠ '%' →
      Percent.decode (Utf8.encode [d] ++ bs) = String.utf8EncodeChar d ++ Percent.decode bs := by
    intro d hd hpercent
    have hbyte : UInt8.ofNat d.toNat ≠ 0x25 := by
      intro hb
      have hnat := congrArg UInt8.toNat hb
      rw [Utf8.toNat_ofNat (by omega)] at hnat
      exact hpercent (Char.toNat_inj.1 hnat)
    rw [Utf8.encode_cons, Utf8.encodeChar_of_lt hd]
    exact Percent.decode_cons hbyte bs
  rw [encodeChar]
  split
  · -- A plain character stands for itself.
    rename_i hplain
    obtain ⟨hlt, hmem⟩ := isPlain_facts hplain
    have hplus : '+' ∉ [c] := by
      rw [List.mem_singleton]
      rintro rfl
      exact hmem (by decide)
    rw [spaced_eq_self hplus]
    apply hself c hlt
    rintro rfl
    exact hmem (by decide)
  · split
    · rename_i hspace
      subst hspace
      exact hself ' ' (by decide) (by decide)
    · have hplus : '+' ∉ (String.utf8EncodeChar c).flatMap Percent.escape := by
        rw [List.mem_flatMap]
        rintro ⟨b, -, hb⟩
        exact Percent.not_mem_escape (by decide) b hb
      -- Escapes hold no plus sign, so the step for spaces leaves them alone.
      rw [spaced_eq_self hplus, Percent.decode_escapes]

/-- **A text is read from its written form.** -/
theorem decodeText_encodeText (s : String) : decodeText (encodeText s) = s := by
  have hbytes : ∀ cs : List Char,
      Percent.decode (Utf8.encode (spaced (cs.flatMap encodeChar))) = Utf8.encode cs := by
    intro cs
    -- By induction on the text, one character after the other.
    induction cs with
    | nil => rfl
    | cons c cs ih =>
        rw [List.flatMap_cons, spaced_append, Utf8.encode_append, decode_encodeChar, ih,
          Utf8.encode_cons]
  have htext := hbytes s.toList
  rw [decodeText, encodeText]
  show Utf8.toString (Percent.decode (Utf8.encode (spaced (s.toList.flatMap encodeChar)))) = s
  rw [htext, Utf8.toString_encode, String.ofList_toList]

/-! ## Pairs -/

/-- **A pair is read from its written form.** -/
theorem decodePair_encodePair (p : String × String) : decodePair (encodePair p) = p := by
  have hname : ∀ c ∈ encodeText p.1, decide (c ≠ '=') = true := by
    intro c hc
    rw [decide_eq_true_eq]
    rintro rfl
    exact not_mem_encodeText (Or.inr rfl) p.1 hc
  rw [decodePair, encodePair, List.takeWhile_append_of_pos hname, List.dropWhile_append_of_pos hname]
  simp only [List.takeWhile_cons, List.dropWhile_cons, ne_eq, not_true_eq_false, decide_false,
    Bool.false_eq_true, if_false, List.append_nil, List.drop_succ_cons, List.drop_zero]
  rw [decodeText_encodeText, decodeText_encodeText]

theorem not_mem_encodePair (p : String × String) : '&' ∉ encodePair p := by
  rw [encodePair, List.mem_append, List.mem_cons]
  rintro (hname | heq | hvalue)
  · exact not_mem_encodeText (Or.inl rfl) p.1 hname
  · exact absurd heq (by decide)
  · exact not_mem_encodeText (Or.inl rfl) p.2 hvalue

/-- The written form of a pair is not empty. -/
theorem isEmpty_encodePair (p : String × String) : (encodePair p).isEmpty = false := by
  rw [encodePair]
  simp

/-- One more pair comes behind an ampersand. -/
theorem encode_concat {ps : List (String × String)} (h : ps ≠ []) (p : String × String) :
    encode (ps ++ [p]) = encode ps ++ '&' :: encodePair p := by
  induction ps with
  | nil => exact absurd rfl h
  | cons q ps ih =>
      cases ps with
      | nil => rfl
      | cons q' ps =>
          have hcons : ∀ rs : List (String × String), rs ≠ [] →
              encode (q :: rs) = encodePair q ++ '&' :: encode rs := by
            intro rs hrs
            cases rs with
            | nil => exact absurd rfl hrs
            | cons r rs => rfl
          rw [List.cons_append, hcons _ (by simp), hcons _ (by simp), ih (by simp),
            List.append_assoc, List.cons_append]

/-- The pieces of a form are its pairs. -/
theorem pieces_encode {ps : List (String × String)} (h : ps ≠ []) :
    Text.pieces '&' (encode ps) = ps.map encodePair := by
  induction ps with
  | nil => exact absurd rfl h
  | cons p ps ih =>
      cases ps with
      | nil => exact Text.pieces_of_not_mem (not_mem_encodePair p)
      | cons q ps =>
          show Text.pieces '&' (encodePair p ++ '&' :: encode (q :: ps)) = _
          rw [Text.pieces_append (not_mem_encodePair p), ih (List.cons_ne_nil q ps)]
          rfl

/-- **A form is read as the pairs from which it was written.** -/
theorem decode_encode (ps : List (String × String)) : decode (encode ps) = ps := by
  by_cases h : ps = []
  · subst h
    rfl
  · have hall : ∀ piece ∈ ps.map encodePair, (!piece.isEmpty) = true := by
      intro piece hpiece
      obtain ⟨p, -, rfl⟩ := List.mem_map.1 hpiece
      rw [isEmpty_encodePair]
      rfl
    have hback : ∀ p ∈ ps, (decodePair ∘ encodePair) p = p := by
      intro p _
      exact decodePair_encodePair p
    rw [decode, pieces_encode h, List.filter_eq_self.2 hall, List.map_map,
      List.map_congr_left hback, List.map_id']

theorem decode_render (ps : List (String × String)) : decode (render ps).toList = ps := by
  rw [render, String.toList_ofList, decode_encode]

theorem render_ne_empty {ps : List (String × String)} (h : ps ≠ []) : render ps ≠ "" := by
  intro hempty
  have hread := decode_render ps
  rw [hempty] at hread
  exact h hread.symm

end Form

end ScimLookup
