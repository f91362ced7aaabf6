import ScimLookup.Proofs.Bytes.Percent
import ScimLookup.Proofs.Bytes.Utf8
import ScimLookup.Url.Host

/-!
# Hosts do not end in blanks

A blank at the end of a name stays there through all that a name goes through: it is no digit of an
escape and no part of a damaged character, it is composed with nothing that follows
(`Text.composed_append`), and its label keeps it, in Punycode too (`Punycode.mem_encode`). No name
may hold one, so no host of an address whose scheme names servers ends in a blank
(`Host.ofServer?_append`).
-/

set_option autoImplicit false

namespace ScimLookup

/-! ## Composed text -/

namespace Text

theorem markClass_of_lt {c : Char} (hc : c.toNat < 0x300) : markClass c = 0 := by
  rw [markClass, if_pos hc]

theorem composite?_of_lt {c : Char} (hc : c.toNat < 0x300) (base : Char) :
    composite? base c = none := by
  rw [composite?, if_pos hc]

/-- Whether a character is composed with what is before it does not depend on what follows. -/
theorem composeFrom_cons (base d : Char) (marks : List Char) :
    ∃ found : Option Char, ∀ ds, composeFrom base marks (d :: ds) =
      match found with
      | some e => composeFrom e marks ds
      | none => if markClass d = 0 then base :: marks.reverse ++ composeFrom d [] ds
          else composeFrom base (d :: marks) ds := by
  cases marks with
  | nil =>
      refine ⟨if true = true then composite? base d else none, fun ds => ?_⟩
      refine (composeFrom.eq_2 base d ds).trans ?_
      generalize (if true = true then composite? base d else none) = found
      cases found <;> rfl
  | cons m ms =>
      refine ⟨if decide (markClass m < markClass d) = true then composite? base d else none,
        fun ds => ?_⟩
      refine (composeFrom.eq_3 base d ds m ms).trans ?_
      generalize (if decide (markClass m < markClass d) = true then composite? base d else none) =
        found
      cases found <;> rfl

theorem composeFrom_append {c : Char} (hc : c.toNat < 0x300) (base : Char)
    (marks cs : List Char) :
    composeFrom base marks (cs ++ [c]) = composeFrom base marks cs ++ [c] := by
  induction cs generalizing base marks with
  | nil =>
      have hnone : ∀ free : Bool, (if free = true then composite? base c else none) = none := by
        intro free
        rw [composite?_of_lt hc, ite_self]
      cases marks with
      | nil =>
          rw [List.nil_append, composeFrom.eq_2, hnone true]
          dsimp only
          rw [if_pos (markClass_of_lt hc), composeFrom.eq_1, composeFrom.eq_1, List.reverse_nil]
      | cons m ms =>
          rw [List.nil_append, composeFrom.eq_3, hnone]
          dsimp only
          rw [if_pos (markClass_of_lt hc), composeFrom.eq_1, composeFrom.eq_1, List.reverse_nil]
  | cons d cs ih =>
      -- What comes before the last character is composed as if that were not there.
      obtain ⟨found, hfound⟩ := composeFrom_cons base d marks
      rw [List.cons_append, hfound, hfound]
      cases found with
      | some e => exact ih e marks
      | none =>
          dsimp only
          split
          · rw [ih, List.append_assoc]
          · exact ih base (d :: marks)

theorem compose_append {c : Char} (hc : c.toNat < 0x300) (cs : List Char) :
    compose (cs ++ [c]) = compose cs ++ [c] := by
  induction cs with
  | nil =>
      rw [List.nil_append, compose.eq_2, if_pos (markClass_of_lt hc), composeFrom.eq_1,
        compose.eq_1, List.reverse_nil, List.nil_append]
  | cons d cs ih =>
      rw [List.cons_append, compose.eq_2, compose.eq_2]
      split
      · exact composeFrom_append hc d [] cs
      · rw [ih, List.cons_append]

theorem place_of_lt {c : Char} (hc : c.toNat < 0x300) (done : List Char) :
    place c done = c :: done := by
  cases done with
  | nil => rfl
  | cons d ds =>
      rw [place.eq_2, if_neg]
      intro h
      rw [markClass_of_lt hc] at h
      exact Nat.lt_irrefl 0 h.1

theorem ordered_append {c : Char} (hc : c.toNat < 0x300) (cs : List Char) :
    ordered (cs ++ [c]) = ordered cs ++ [c] := by
  rw [ordered, ordered, List.foldl_append, List.foldl_cons, List.foldl_nil, place_of_lt hc,
    List.reverse_cons]

theorem parts_of_lt {c : Char} (hc : c.toNat < 0xC0) (n : Nat) : parts n c = [c] := by
  cases n with
  | zero => rw [parts.eq_1]
  | succ n => rw [parts.eq_2, if_pos hc]

/-- A character that is no mark and has no parts stays at the end. -/
theorem composed_append {c : Char} (hc : c.toNat < 0xC0) (cs : List Char) :
    composed (cs ++ [c]) = composed cs ++ [c] := by
  have hclass : c.toNat < 0x300 := by omega
  rw [composed, composed, List.flatMap_append, List.flatMap_singleton, parts_of_lt hc,
    ordered_append hclass, compose_append hclass]

/-! ## Pieces -/

/-- Characters that do not separate are those of the pieces. -/
theorem mem_joined_iff {sep c : Char} (hc : c ≠ sep) (ps : List (List Char)) :
    c ∈ joined sep ps ↔ ∃ p ∈ ps, c ∈ p := by
  fun_induction joined sep ps with
  | case1 => simp
  | case2 p => simp
  | case3 p ps hmore ih => simp [hc, ih]

end Text

/-! ## Labels -/

namespace Punycode

/-- What is written already stays. -/
theorem mem_writeStep {c : Char} (basic m : Nat) (s : Writing) (d : Char) (h : c ∈ s.out) :
    c ∈ (writeStep basic m s d).out := by
  unfold writeStep
  split
  · exact h
  · split
    · exact List.mem_append_left _ h
    · exact h

theorem mem_foldl_writeStep {c : Char} (basic m : Nat) (label : List Char) (s : Writing)
    (h : c ∈ s.out) : c ∈ (label.foldl (writeStep basic m) s).out := by
  induction label generalizing s with
  | nil => exact h
  | cons d label ih => exact ih (writeStep basic m s d) (mem_writeStep basic m s d h)

theorem mem_writeAll {c : Char} (label : List Char) (basic : Nat) (ms : List Nat) (n : Nat)
    (s : Writing) (h : c ∈ s.out) : c ∈ writeAll label basic ms n s := by
  induction ms generalizing n s with
  | nil => exact h
  | cons m ms ih =>
      apply ih
      exact mem_foldl_writeStep basic m label _ h

/-- Every ASCII character of a label is in its form. -/
theorem mem_encode {c : Char} {label : List Char} (hc : isAscii c = true) (h : c ∈ label) :
    c ∈ encode label := by
  have hbasic : c ∈ label.filter isAscii := List.mem_filter.2 ⟨h, hc⟩
  have hfront : (label.filter isAscii).isEmpty = false := by
    rw [List.isEmpty_eq_false_iff]
    exact List.ne_nil_of_mem hbasic
  rw [encode]
  apply mem_writeAll
  rw [hfront]
  exact List.mem_append_left ['-'] hbasic

end Punycode

namespace DomainName

theorem mem_ascii_of_label? {c : Char} {cs : List Char} {l : Label} (hc : Punycode.isAscii c = true)
    (hmem : c ∈ cs) (hl : label? cs = some l) : c ∈ l.ascii := by
  have hlabel : ∃ characters : List Char, (if (!isSound characters) = true then none
      else if cs.all Punycode.isAscii = true then some ⟨cs, characters⟩
      else some ⟨mark ++ Punycode.encode cs, characters⟩) = some l := by
    simp only [label?, Option.bind_eq_bind] at hl
    split at hl
    · exact (Option.bind_eq_some_iff.1 hl).imp fun characters h => h.2
    · exact ⟨cs, hl⟩
  obtain ⟨characters, hlabel⟩ := hlabel
  split at hlabel
  · cases hlabel
  · split at hlabel
    · cases hlabel
      exact hmem
    · cases hlabel
      exact List.mem_append_right mark (Punycode.mem_encode hc hmem)

/-- A blank stands for itself. -/
theorem form?_of_le {c : Char} (hc : c.toNat ≤ 0x20) : form? c = some [c] := by
  have hlower : c.toLower = c := by
    refine dif_neg ?_
    rintro ⟨h, -⟩
    have : 65 ≤ c.toNat := h
    omega
  rw [form?, if_pos (by omega), hlower]

theorem inForm?_append {c : Char} (hc : c.toNat ≤ 0x20) {cs n : List Char}
    (h : inForm? (cs ++ [c]) = some n) : c ∈ n := by
  obtain ⟨forms, hforms, rfl⟩ := Option.map_eq_some_iff.1 h
  simp only [List.mapM_append, List.mapM_cons, List.mapM_nil, form?_of_le hc,
    Option.bind_eq_bind, Option.bind_some, Option.pure_def] at hforms
  obtain ⟨front, -, hforms⟩ := Option.bind_eq_some_iff.1 hforms
  cases hforms
  rw [List.flatten_append, List.flatten_singleton, Text.composed_append (by omega)]
  exact List.mem_append_right _ List.mem_cons_self

/-- Every piece has a label. -/
theorem exists_label {ps : List (List Char)} {ls : List Label} (h : ps.mapM label? = some ls)
    {p : List Char} (hp : p ∈ ps) : ∃ l ∈ ls, label? p = some l := by
  induction ps generalizing ls with
  | nil => cases hp
  | cons q ps ih =>
      simp only [List.mapM_cons, Option.bind_eq_bind, Option.bind_eq_some_iff, Option.pure_def,
        Option.some.injEq] at h
      obtain ⟨k, hk, ks, hks, rfl⟩ := h
      rcases List.mem_cons.1 hp with rfl | hp
      · exact ⟨k, List.mem_cons_self, hk⟩
      · obtain ⟨l, hl, hlabel⟩ := ih hks hp
        exact ⟨l, List.mem_cons_of_mem k hl, hlabel⟩

/-- **No name ends in a blank.** -/
theorem ascii?_append {c : Char} (hc : c.toNat ≤ 0x20) (cs : List Char) :
    ascii? (cs ++ [c]) = none := by
  cases hform : inForm? (cs ++ [c]) with
  | none => rw [ascii?, hform]; rfl
  | some n =>
      cases hlabels : (Text.pieces '.' n).mapM label? with
      | none =>
          simp only [ascii?, hform, hlabels, Option.bind_eq_bind, Option.bind_some,
            Option.bind_none]
      | some labels =>
          have hdot : c ≠ '.' := by
            rintro rfl
            revert hc
            decide
          have hascii : Punycode.isAscii c = true := decide_eq_true (by omega)
          have hforbidden : isForbidden c = true := by simp [isForbidden, hc]
          -- The blank is in the name, so in one of its pieces, in the label of this, and in the
          -- form of the whole.
          have hname : c ∈ Text.joined '.' (Text.pieces '.' n) := by
            rw [Text.joined_pieces]
            exact inForm?_append hc hform
          obtain ⟨p, hp, hmem⟩ := (Text.mem_joined_iff hdot _).1 hname
          obtain ⟨l, hl, hlabel⟩ := exists_label hlabels hp
          have hout : c ∈ Text.joined '.' (labels.map (·.ascii)) :=
            (Text.mem_joined_iff hdot _).2
              ⟨l.ascii, List.mem_map_of_mem hl, mem_ascii_of_label? hascii hmem hlabel⟩
          have hany : (Text.joined '.' (labels.map (·.ascii))).any isForbidden = true :=
            List.any_eq_true.2 ⟨c, hout, hforbidden⟩
          simp only [ascii?, hform, hlabels, Option.bind_eq_bind, Option.bind_some, hany,
            Bool.or_true, if_true]

end DomainName

namespace Host

/-- A host is not empty. -/
theorem ofServer?_nil : ofServer? [] = none :=
  rfl

/-- **No host of an address whose scheme names servers ends in a blank.** -/
theorem ofServer?_append {c : Char} (hc : c.toNat ≤ 0x20) (cs : List Char) :
    ofServer? (cs ++ [c]) = none := by
  have hbracket : c ≠ '[' ∧ c ≠ ']' := by
    constructor <;> (rintro rfl; revert hc; decide)
  by_cases hopen : ∃ rest, cs = '[' :: rest
  · -- Brackets that are opened are closed at the very end.
    obtain ⟨rest, rfl⟩ := hopen
    rw [List.cons_append, ofServer?, bracketed?, List.getLast?_concat]
    split
    · rename_i h
      exact absurd (Option.some.inj h) hbracket.2
    · rfl
  · have hbyte : (UInt8.ofNat c.toNat).toNat = c.toNat := Utf8.toNat_ofNat (by omega)
    have hdigit : Percent.hexValue? (UInt8.ofNat c.toNat).toNat = none := by
      rw [hbyte, Percent.hexValue?, if_neg (by omega), if_neg (by omega), if_neg (by omega)]
    have hencode : Utf8.encode (cs ++ [c]) = Utf8.encode cs ++ [UInt8.ofNat c.toNat] := by
      rw [Utf8.encode_append, Utf8.encode_cons, Utf8.encodeChar_of_lt (by omega)]
      rfl
    have hdecoded : ∃ ds, Utf8.decode (Percent.decode (Utf8.encode (cs ++ [c]))) = ds ++ [c] := by
      rw [hencode, Percent.decode_append hdigit, Percent.decode_singleton]
      obtain ⟨ds, hds⟩ := Utf8.decode_append (by rw [hbyte]; omega)
        (Percent.decode (Utf8.encode cs))
      rw [hbyte, Char.ofNat_toNat] at hds
      exact ⟨ds, hds⟩
    obtain ⟨ds, hds⟩ := hdecoded
    rw [ofServer?.eq_2, hds, DomainName.ascii?_append hc]
    · rfl
    · intro rest hrest
      cases cs with
      | nil => exact hbracket.1 (List.cons.inj hrest).1
      | cons d cs => exact hopen ⟨cs, by rw [(List.cons.inj hrest).1]⟩

end Host

end ScimLookup
