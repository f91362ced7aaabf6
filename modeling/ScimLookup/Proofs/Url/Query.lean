import ScimLookup.Proofs.Url.Below
import ScimLookup.Proofs.Url.Form

/-!
# The query of an address

A question mark opens the query of an address of the web wherever it stands, unless a hash stands
before it: neither the scheme nor the authority can hold one of the two. So the query and the
fragment are read off the text from the first of them on (`reads_tail`), and a text without them
brings neither to what is put behind it (`query_below`). A form comes through as it is
(`queryOf_form`), and a further pair goes to its end (`query_addPair`).
-/

set_option autoImplicit false

namespace ScimLookup

namespace Url

/-! ## Authorities -/

theorem splitUser_subset (cs : List Char) : ((splitUser cs).getD ([], cs)).2 ⊆ cs := by
  intro c hc
  rw [splitUser] at hc
  split at hc
  · rw [Option.getD_some, List.mem_reverse] at hc
    exact List.mem_reverse.1 ((List.takeWhile_sublist _).subset hc)
  · exact hc

/-- What an authority leaves to the path is a part of it. -/
theorem rest_subset {scheme : String} {f : Bool} {cs : List Char} {a : Authority}
    (h : authority? scheme f cs = some a) : a.rest ⊆ cs := by
  simp only [authority?] at h
  obtain ⟨host, -, h⟩ := Option.bind_eq_some_iff.1 h
  split at h
  · cases h
  · obtain ⟨⟨port, rest⟩, hport, h⟩ := Option.bind_eq_some_iff.1 h
    cases h
    -- The rest is what follows the digits of the port.
    rw [port?] at hport
    split at hport
    · cases hport
    · cases hport
      intro c hc
      have hport := (List.dropWhile_sublist _).subset hc
      exact splitUser_subset cs (List.mem_of_mem_drop (List.mem_of_mem_drop hport))

/-! ## Queries -/

theorem dropWhile_append_of_none {xs : List Char} (h : ∀ c ∈ xs, endsPath c = false)
    (ys : List Char) : (xs ++ ys).dropWhile (!endsPath ·) = ys.dropWhile (!endsPath ·) :=
  List.dropWhile_append_of_pos fun c hc => by rw [h c hc]; rfl

/-- What names the scheme opens neither a query nor a fragment. -/
theorem endsPath_of_isSchemeChar {c : Char} (h : isSchemeChar c = true) : endsPath c = false := by
  cases hc : endsPath c with
  | false => rfl
  | true =>
      rw [endsPath, Bool.or_eq_true, beq_iff_eq, beq_iff_eq] at hc
      rcases hc with rfl | rfl
      · exact absurd h (by decide)
      · exact absurd h (by decide)

/-- **Query and fragment are read from the first question mark or hash on.** -/
theorem reads_tail {s : String} {u : Url} (h : parse? s = some u) (hweb : u.isWeb = true) :
    u.query = queryOf true ((cleaned s).dropWhile (!endsPath ·)) ∧
      u.fragment = fragmentOf ((cleaned s).dropWhile (!endsPath ·)) := by
  obtain ⟨rest, hsplit, hserver, hu⟩ := parse?_web h hweb
  rw [withAuthority?_server hserver] at hu
  obtain ⟨a, ha, hplaced⟩ := Option.map_eq_some_iff.1 hu
  have hpart : ∀ c ∈ authorityPart rest, endsPath c = false := by
    intro c hc
    cases hends : endsPath c with
    | false => rfl
    | true =>
        refine absurd hc (not_mem_authorityPart ?_ rest)
        rw [endsAuthority, hends, Bool.or_true]
  have hslashes : ∀ c ∈ rest.takeWhile (isSlash true), endsPath c = false := by
    intro c hc
    have hslash := List.all_eq_true.1 List.all_takeWhile c hc
    simp only [isSlash, Bool.true_and, Bool.or_eq_true, beq_iff_eq] at hslash
    rcases hslash with rfl | rfl
    · rfl
    · rfl
  have hscheme : ∀ c ∈ (cleaned s).takeWhile isSchemeChar ++ [':'], endsPath c = false := by
    intro c hc
    rcases List.mem_append.1 hc with hc | hc
    · exact endsPath_of_isSchemeChar (List.all_eq_true.1 List.all_takeWhile c hc)
    · rw [List.mem_singleton.1 hc]
      rfl
  -- The parts before the path hold neither mark, so both texts begin at the same one.
  have hall : cleaned s = ((cleaned s).takeWhile isSchemeChar ++ [':']) ++
      (rest.takeWhile (isSlash true) ++ (authorityPart rest ++ behindAuthority rest)) := by
    rw [authorityPart, behindAuthority, List.takeWhile_append_dropWhile,
      List.takeWhile_append_dropWhile, List.append_assoc, List.singleton_append,
      ← (splitScheme_some_iff.1 hsplit).2.1, List.takeWhile_append_dropWhile]
  have htail : (a.rest ++ behindAuthority rest).dropWhile (!endsPath ·) =
      (cleaned s).dropWhile (!endsPath ·) := by
    rw [hall, dropWhile_append_of_none hscheme, dropWhile_append_of_none hslashes,
      dropWhile_append_of_none hpart,
      dropWhile_append_of_none fun c hc => hpart c (rest_subset ha hc)]
  rw [← htail, ← hplaced, placed, hserver]
  exact ⟨rfl, rfl⟩

/-- **What is put behind a text without question mark and hash brings its own query.** -/
theorem query_below {t y : List Char} {u : Url} (ht : ∀ c ∈ front t, endsPath c = false)
    (h : parse? (.ofList (t ++ '/' :: y)) = some u) (hweb : u.isWeb = true) :
    u.query = queryOf true ((back y).dropWhile (!endsPath ·)) := by
  have hfront : ∀ c ∈ front t ++ ['/'], endsPath c = false := by
    intro c hc
    rcases List.mem_append.1 hc with hc | hc
    · exact ht c hc
    · rw [List.mem_singleton.1 hc]
      rfl
  rw [(reads_tail h hweb).1, cleaned_slash, ← List.singleton_append, ← List.append_assoc,
    dropWhile_append_of_none hfront]

end Url

/-! ## Forms in a query -/

namespace Form

/-- A query takes the characters of a form as they are. -/
theorem isQueryEscaped_of_mem_encodeText {s : String} {c : Char} (h : c ∈ encodeText s) :
    Url.isQueryEscaped true c = false := by
  have hplain : ∀ n < 0x80, isPlain (Char.ofNat n) = true →
      Url.isQueryEscaped true (Char.ofNat n) = false := by
    decide
  have hdigit : ∀ n < 16, Url.isQueryEscaped true (Percent.hexDigit n) = false := by decide
  obtain ⟨d, -, hmem⟩ := List.mem_flatMap.1 h
  rw [encodeChar] at hmem
  split at hmem
  · rename_i hd
    rw [List.mem_singleton.1 hmem, ← Char.ofNat_toNat d]
    exact hplain _ (isPlain_facts hd).1 (by rwa [Char.ofNat_toNat])
  · split at hmem
    · rw [List.mem_singleton.1 hmem]
      decide
    · obtain ⟨b, -, hb⟩ := List.mem_flatMap.1 hmem
      have hlt : b.toNat < 256 := b.toNat_lt
      rw [Percent.escape, List.mem_cons, List.mem_cons, List.mem_singleton] at hb
      rcases hb with rfl | rfl | rfl
      · decide
      · exact hdigit _ (by omega)
      · exact hdigit _ (by omega)

theorem isQueryEscaped_of_mem_encode {ps : List (String × String)} {c : Char}
    (h : c ∈ encode ps) : Url.isQueryEscaped true c = false := by
  have hpair : ∀ p : String × String, c ∈ encodePair p → Url.isQueryEscaped true c = false := by
    intro p hp
    rcases List.mem_append.1 hp with hp | hp
    · exact isQueryEscaped_of_mem_encodeText hp
    · rcases List.mem_cons.1 hp with rfl | hp
      · decide
      · exact isQueryEscaped_of_mem_encodeText hp
  induction ps with
  | nil => cases h
  | cons p ps ih =>
      cases ps with
      | nil => exact hpair p h
      | cons p' ps =>
          rw [encode] at h
          · rcases List.mem_append.1 h with h | h
            · exact hpair p h
            · rcases List.mem_cons.1 h with rfl | h
              · decide
              · exact ih h
          · simp

end Form

namespace Url

/-- What a query takes as it is, is not dropped from an address. -/
theorem stays_of_isQueryEscaped {c : Char} (h : isQueryEscaped true c = false) :
    isBreak c = false ∧ isEdge c = false ∧ c ≠ '#' := by
  simp only [isQueryEscaped, isControl, Host.isControl, Bool.or_eq_false_iff, beq_eq_false_iff_ne,
    decide_eq_false_iff_not, not_or] at h
  obtain ⟨⟨⟨⟨⟨⟨⟨hlow, -⟩, hspace⟩, -⟩, hhash⟩, -⟩, -⟩, -⟩ := h
  have hedge : ¬ c.toNat ≤ 0x20 := by
    intro hle
    have heq : c.toNat = ' '.toNat := by
      have hval : ' '.toNat = 0x20 := rfl
      omega
    exact hspace (Char.toNat_inj.1 heq)
  refine ⟨?_, decide_eq_false hedge, hhash⟩
  have hne : ∀ d : Char, d.toNat ≤ 0x20 → c ≠ d := by
    rintro d hd rfl
    exact hedge hd
  simp [isBreak, hne '\t' (by decide), hne '\n' (by decide), hne '\x0d' (by decide)]

/-- A form behind a question mark counts as it is. -/
theorem back_form (ps : List (String × String)) :
    back ('?' :: Form.encode ps) = '?' :: Form.encode ps := by
  have hstays : ∀ c ∈ '?' :: Form.encode ps, isQueryEscaped true c = false := by
    intro c hc
    rcases List.mem_cons.1 hc with rfl | hc
    · decide
    · exact Form.isQueryEscaped_of_mem_encode hc
  apply back_eq_self fun c hc => (stays_of_isQueryEscaped (hstays c hc)).1
  cases hlast : ('?' :: Form.encode ps).getLast? with
  | none => rfl
  | some c => exact (stays_of_isQueryEscaped (hstays c (List.mem_of_getLast? hlast))).2.1

/-- **A form is the query that it opens.** -/
theorem queryOf_form (ps : List (String × String)) :
    queryOf true ('?' :: Form.encode ps) = some (Form.render ps) := by
  have htake : (Form.encode ps).takeWhile (· ≠ '#') = Form.encode ps := by
    apply Text.takeWhile_eq_self
    intro c hc
    exact decide_eq_true (stays_of_isQueryEscaped (Form.isQueryEscaped_of_mem_encode hc)).2.2
  rw [queryOf, htake, Percent.encode_eq_self fun c hc => Form.isQueryEscaped_of_mem_encode hc]
  rfl

/-- The query that a list of pairs makes: its form, and none for no pairs. -/
def pairsQuery (ps : List (String × String)) : Option String :=
  if ps.isEmpty then none else some (Form.render ps)

/-- No query is read as no pairs. -/
theorem decode_pairsQuery (ps : List (String × String)) :
    Form.decode ((pairsQuery ps).getD "").toList = ps := by
  cases ps with
  | nil => rfl
  | cons p ps => exact Form.decode_render (p :: ps)

/-- **A further pair goes to the end of the form.** -/
theorem query_addPair {u : Url} {ps : List (String × String)} (hu : u.query = pairsQuery ps)
    (p : String × String) : (u.addPair p).query = pairsQuery (ps ++ [p]) := by
  have hpair : pairsQuery (ps ++ [p]) = some (Form.render (ps ++ [p])) := by
    simp [pairsQuery]
  rw [hpair, addPair, hu]
  by_cases hps : ps = []
  · subst hps
    rfl
  · have hform : pairsQuery ps = some (Form.render ps) := by
      rw [pairsQuery, List.isEmpty_eq_false_iff.2 hps]
      rfl
    rw [hform]
    dsimp only
    split
    · rename_i hempty
      exact absurd (Option.some.inj hempty) (Form.render_ne_empty hps)
    · rename_i hsome
      rw [← Option.some.inj hsome]
      exact congrArg some (String.toList_inj.1 (by simp [Form.render, Form.encode_concat hps]))
    · rename_i hnone
      cases hnone

end Url

end ScimLookup
