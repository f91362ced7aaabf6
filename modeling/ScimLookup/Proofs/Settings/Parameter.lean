import ScimLookup.Proofs.Json.ReadBack
import ScimLookup.Proofs.Settings.Stage
import ScimLookup.Scim.Filter

/-!
# How parameters are written

The text of a parameter is taken without the white space around it, and if it then starts with a
quotation mark it must be a JSON string (`Params.IsQuoted`), whose content counts. So it makes no
difference whether a text is given as it is or as a JSON string, whatever it is for
(`Params.quoting_transparent`).

A parameter counts as absent if nothing is left of its text. White space in a JSON string is left:
it is taken for the value, and an attribute can then be blank (`Params.treatsBlanks`).
-/

set_option autoImplicit false

namespace ScimLookup

/-! ## JSON strings -/

namespace Json

/-- The text is a JSON string for another one: between two marks stand characters and escapes that
spell it. -/
def IsStringFor (quoted text : String) : Prop :=
  ∃ (inner : List Char) (ps : List Piece), quoted.toList = '\x22' :: (inner ++ ['\x22']) ∧
    SpellsPieces ps (Utf8.encode inner) ∧ pieceText none ps = .ok text

/-- The compact form of a text is a JSON string for it. -/
theorem isStringFor_compact (text : String) : IsStringFor (Value.string text).compact text :=
  ⟨text.toList.flatMap writeChar, text.toList.flatMap charPieces, String.toList_ofList,
    spellsPieces_chars text.toList, pieceText_chars text⟩

variable {quoted text : String}

/-- A JSON string is read as its text. -/
theorem IsStringFor.ofBytes_eq (h : IsStringFor quoted text) :
    Reader.text.ofBytes (Utf8.ofString quoted) = .ok text := by
  obtain ⟨inner, ps, hquoted, hpieces, htext⟩ := h
  refine Reader.text_readsBack.ofBytes (Document.ofBytes_of_spells ?_)
  rw [Utf8.ofString, hquoted, encode_between (by decide) (by decide), Doc.ofValue, ← htext]
  exact .string hpieces

/-- White space stands in a JSON string, not around it. -/
theorem IsStringFor.trim_eq (h : IsStringFor quoted text) : Text.trim quoted = quoted := by
  obtain ⟨inner, -, hquoted, -, -⟩ := h
  have hmark : Text.isSpace '\x22' = false := by decide
  apply Text.trim_eq_self
  · rw [hquoted]
    rintro c ⟨⟩
    exact hmark
  · rw [hquoted, ← List.cons_append, List.getLast?_concat]
    rintro c ⟨⟩
    exact hmark

end Json

/-- No white space stands around the text, and it does not start with a quotation mark. -/
structure Text.IsPlain (text : String) : Prop where
  first : ∀ c ∈ text.toList.head?, isSpace c = false ∧ c ≠ '\x22'
  last : ∀ c ∈ text.toList.getLast?, isSpace c = false

namespace Params

variable {s : Surroundings} {sources : ParamSources} {p : Param} {source : Source}
  {name raw value : String}

/-! ## What a text counts as -/

/-- Between the white space around it, the text is read as a JSON string for a value. -/
def IsQuoted (raw value : String) : Prop :=
  (Text.trim raw).toList.head? = some '\x22' ∧
    Json.Reader.text.ofBytes (Utf8.ofString (Text.trim raw)) = .ok value

/-- A text counts as the content of a JSON string if it starts like one, and else as it is. -/
theorem unquoted_eq_ok_iff :
    unquoted name raw = .ok value ↔
      IsQuoted raw value ∨ (Text.trim raw).toList.head? ≠ some '\x22' ∧ Text.trim raw = value := by
  rw [unquoted, IsQuoted]
  split
  · rename_i hmark
    rw [beq_iff_eq] at hmark
    split
    · rename_i text htext
      simp [hmark, htext]
    · rename_i e hfault
      simp [hmark, hfault]
  · rename_i hplain
    rw [beq_iff_eq] at hplain
    simp [hplain]

theorem given_of_quoted (h : source.load s name = .ok raw) (hquoted : IsQuoted raw value) :
    given s name (some source) = .ok (filled? value) := by
  rw [given_of_load h, unquoted_eq_ok_iff.2 (Or.inl hquoted)]
  rfl

/-! ## Quotation marks -/

theorem isQuoted_of_isStringFor (h : Json.IsStringFor raw value) : IsQuoted raw value := by
  rw [IsQuoted, h.trim_eq]
  obtain ⟨inner, -, hraw, -, -⟩ := id h
  exact ⟨by rw [hraw]; rfl, h.ofBytes_eq⟩

theorem given_of_plain (h : source.load s name = .ok value) (hplain : Text.IsPlain value) :
    given s name (some source) = .ok (filled? value) := by
  have htrim : Text.trim value = value :=
    Text.trim_eq_self (fun c hc => (hplain.first c hc).1) hplain.last
  have hunquoted : unquoted name value = .ok value := by
    rw [unquoted_eq_ok_iff, htrim]
    exact Or.inr ⟨fun hmark => (hplain.first _ hmark).2 rfl, rfl⟩
  rw [given_of_load h, hunquoted]
  rfl

/-- **Quotation marks make no difference.** A parameter that is given as a text, without white space
around it and without a quotation mark in front, and one that is given as a JSON string for this
text, such as its compact form, are resolved alike: to the same parameters or to the same error.
Both count as the text, and as absent if that is empty. -/
theorem quoting_transparent :
    (∀ text, Json.IsStringFor (Json.Value.string text).compact text) ∧
    ∀ (s : Surroundings) (sources : ParamSources) (p : Param) (source source' : Source)
      (text quoted : String), Text.IsPlain text → Json.IsStringFor quoted text →
      source.load s p.name = .ok text → source'.load s p.name = .ok quoted →
        resolve s (sources.give p (some source)) = resolve s (sources.give p (some source')) ∧
        given s p.name (some source') = .ok (if text = "" then none else some text) ∧
        (text = "" →
          resolve s (sources.give p (some source')) = resolve s (sources.give p none)) := by
  refine ⟨Json.isStringFor_compact, ?_⟩
  intro s sources p source source' text quoted hplain hquoted hload hload'
  have hgiven := given_of_plain hload hplain
  have hgiven' := given_of_quoted hload' (isQuoted_of_isStringFor hquoted)
  refine ⟨resolve_give_congr (hgiven.trans hgiven'.symm), ?_, ?_⟩
  · rw [hgiven', filled?]
    simp only [String.isEmpty_iff]
  · rintro rfl
    exact resolve_give_congr hgiven'

/-- A text with a quotation mark and a backslash is no list method, however it is given. -/
theorem quoting_transparent_marked :
    (Json.Value.string "po\x22s\\t").compact = "\x22po\\\x22s\\\\t\x22" ∧
      ∀ text ∈ ["po\x22s\\t", "\x22po\\\x22s\\\\t\x22"],
        resolve .none (ParamSources.none.give .listMethod (some (.ofText text))) =
          .error (.invalidParam "params.listMethod" "po\x22s\\t") := by
  have hcompact : (Json.Value.string "po\x22s\\t").compact = "\x22po\\\x22s\\\\t\x22" := by
    decide +kernel
  have hplain : Text.IsPlain "po\x22s\\t" := by
    refine ⟨?_, ?_⟩
    · rintro c ⟨⟩
      decide
    · rintro c ⟨⟩
      decide
  obtain ⟨hstring, htransparent⟩ := quoting_transparent
  obtain ⟨hsame, -, -⟩ := htransparent .none .none .listMethod (.ofText "po\x22s\\t")
    (.ofText "\x22po\\\x22s\\\\t\x22") _ _ hplain (hcompact ▸ hstring _) rfl rfl
  have hrefused : resolve .none
      (ParamSources.none.give .listMethod (some (.ofText "po\x22s\\t"))) =
        .error (.invalidParam "params.listMethod" "po\x22s\\t") := by
    rfl
  refine ⟨hcompact, List.forall_mem_cons.2 ⟨hrefused, List.forall_mem_singleton.2 ?_⟩⟩
  exact hsame.symm.trans hrefused

end Params

/-! ## Blank parameters -/

namespace Param

/-- The attribute that a parameter names. -/
def named? (params : Params) : Param → Option String
  | .groupAttribute => some params.groupAttribute
  | .userAttribute => some params.userAttribute
  | .groupMembersAttribute => some params.groupMembersAttribute
  | _ => none

/-- A parameter is given, and this is its text. -/
def Loads (p : Param) (s : Surroundings) (sources : ParamSources) (raw : String) : Prop :=
  ∃ source, p.source? sources = some source ∧ source.load s p.name = .ok raw

/-- A parameter is given as a JSON string for white space, and for some. -/
def IsWhite (p : Param) (s : Surroundings) (sources : ParamSources) : Prop :=
  ∃ raw value, p.Loads s sources raw ∧ Params.IsQuoted raw value ∧ value ≠ "" ∧
    Text.isBlank value = true

end Param

namespace Params

/-- What comes of blank parameters. -/
structure TreatsBlanks (s : Surroundings) (sources : ParamSources) : Prop where
  /-- A parameter that is blank, or that is the JSON string of nothing, counts as absent. -/
  absent : ∀ (p : Param) raw, p.Loads s sources raw → Text.isBlank raw = true ∨ IsQuoted raw "" →
    resolve s sources = resolve s (sources.give p none)
  /-- The attribute that a parameter names is never empty. It is blank where it was given as a JSON
  string for white space, and nowhere else. -/
  named : ∀ params, resolve s sources = .ok params →
    ∀ (p : Param) path, p.named? params = some path →
      path ≠ "" ∧ (Text.isBlank path = true ↔ p.IsWhite s sources)
  /-- So a filter for an attribute that was not given that way starts with what is not blank. -/
  filter : ∀ params, resolve s sources = .ok params →
    ∀ (p : Param) path, p.named? params = some path → ¬ p.IsWhite s sources →
      Text.isBlank path = false ∧
        ∀ value, path.toList ++ [' '] <+: (Filter.equals path value).text.toList
  /-- Where the list method or the truth value is given that way, nothing is resolved. -/
  word : ∀ params, resolve s sources = .ok params →
    ∀ p : Param, p.named? params = none → ¬ p.IsWhite s sources

variable {s : Surroundings} {sources : ParamSources} {p : Param} {params : Params}
  {name raw value : String}

/-- A text counts as a blank one, but not as an empty one, only if it is a JSON string. -/
theorem isQuoted_of_blank (h : unquoted name raw = .ok value) (hne : value ≠ "")
    (hblank : Text.isBlank value = true) : IsQuoted raw value := by
  refine (unquoted_eq_ok_iff.1 h).resolve_right ?_
  rintro ⟨-, rfl⟩
  exact hne ((Text.isBlank_iff_trim raw).1 (Text.isBlank_of_trim hblank))

/-- What is given for a parameter that does not count as absent. -/
theorem given_eq_some_iff :
    given s p.name (p.source? sources) = .ok (some value) ↔
      ∃ raw, p.Loads s sources raw ∧ unquoted p.name raw = .ok value ∧ value ≠ "" := by
  constructor
  · intro h
    cases hsource : p.source? sources with
    | none =>
        rw [hsource] at h
        cases h
    | some source =>
        rw [hsource] at h
        obtain ⟨raw, hraw, h⟩ := ok_of_bind h
        obtain ⟨text, htext, h⟩ := ok_of_bind h
        obtain ⟨rfl, hne⟩ := filled?_eq_some_iff.1 (Except.ok.inj h)
        exact ⟨raw, ⟨source, hsource, hraw⟩, htext, hne⟩
  · rintro ⟨raw, ⟨source, hsource, hraw⟩, hvalue, hne⟩
    rw [hsource, given_of_load hraw, hvalue]
    exact congrArg _ (filled?_eq_some_iff.2 ⟨rfl, hne⟩)

/-- The parameters that are blank without being absent are those that are given as JSON strings for
white space. -/
theorem isWhite_iff :
    p.IsWhite s sources ↔
      ∃ value, given s p.name (p.source? sources) = .ok (some value) ∧
        Text.isBlank value = true := by
  constructor
  · rintro ⟨raw, value, hload, hquoted, hne, hblank⟩
    have hvalue : unquoted p.name raw = .ok value := unquoted_eq_ok_iff.2 (Or.inl hquoted)
    exact ⟨value, given_eq_some_iff.2 ⟨raw, hload, hvalue, hne⟩, hblank⟩
  · rintro ⟨value, hgiven, hblank⟩
    obtain ⟨raw, hload, hvalue, hne⟩ := given_eq_some_iff.1 hgiven
    exact ⟨raw, value, hload, isQuoted_of_blank hvalue hne hblank, hne, hblank⟩

/-- A parameter that is read has a value that it can have. -/
theorem admits_of_orElse {α : Type} {read : String → Except ConfigError α} {usual a : α}
    {found : Option String} (hread : ∀ value e, read value = .error e ↔
      ¬ p.Admits value ∧ e = .invalidParam p.name value)
    (h : orElse read usual found = .ok a) : ∀ value, found = some value → p.Admits value := by
  rintro value rfl
  -- What is not admitted would have been an error.
  rcases Classical.em (p.Admits value) with hadmits | hnot
  · exact hadmits
  · rw [orElse, (hread value _).2 ⟨hnot, rfl⟩] at h
    cases h

/-- What comes of each parameter where all of them are resolved. -/
theorem resolve_ok (h : resolve s sources = .ok params) (p : Param) :
    ∃ found, given s p.name (p.source? sources) = .ok found ∧
      (∀ value, found = some value → p.Admits value) ∧
      ∀ path, p.named? params = some path →
        ∃ usual, p.named? standard = some usual ∧ path = found.getD usual := by
  -- The parameters are resolved one after the other, so each of them was.
  rw [resolve] at h
  obtain ⟨method, hmethod, h⟩ := ok_of_bind h
  obtain ⟨listMethod, hlist, h⟩ := ok_of_bind h
  obtain ⟨allow, hallow, h⟩ := ok_of_bind h
  obtain ⟨searches, hsearches, h⟩ := ok_of_bind h
  obtain ⟨group, hgroup, h⟩ := ok_of_bind h
  obtain ⟨user, huser, h⟩ := ok_of_bind h
  obtain ⟨members, hmembers, h⟩ := ok_of_bind h
  cases h
  cases p with
  | listMethod =>
      refine ⟨method, hmethod, admits_of_orElse (fun _ _ => readMethod_eq_error_iff) hlist, ?_⟩
      intro path hpath
      cases hpath
  | allowSearchUsersByGroup =>
      refine ⟨allow, hallow, admits_of_orElse (fun _ _ => truth_eq_error_iff) hsearches, ?_⟩
      intro path hpath
      cases hpath
  | groupAttribute =>
      refine ⟨group, hgroup, fun _ _ => trivial, fun path hpath => ⟨_, rfl, ?_⟩⟩
      exact (Option.some.inj hpath).symm
  | userAttribute =>
      refine ⟨user, huser, fun _ _ => trivial, fun path hpath => ⟨_, rfl, ?_⟩⟩
      exact (Option.some.inj hpath).symm
  | groupMembersAttribute =>
      refine ⟨members, hmembers, fun _ _ => trivial, fun path hpath => ⟨_, rfl, ?_⟩⟩
      exact (Option.some.inj hpath).symm

/-- No word is blank. -/
theorem not_admits_of_isBlank (hword : p.named? params = none) (h : Text.isBlank value = true) :
    ¬ p.Admits value := by
  cases p with
  | listMethod =>
      intro hadmits
      apply hadmits
      rw [ListMethod.ofText?, (Text.isBlank_iff_trim value).1 h]
      rfl
  | allowSearchUsersByGroup =>
      rintro (htrue | hfalse)
      · exact absurd (Text.isBlank_of_eqIgnoringCase htrue h) (by decide)
      · exact absurd (Text.isBlank_of_eqIgnoringCase hfalse h) (by decide)
  | _ => cases hword

/-- **Blank parameters count as absent, unless the white space stands in a JSON string.** -/
theorem treatsBlanks (s : Surroundings) (sources : ParamSources) : TreatsBlanks s sources := by
  have hnamed : ∀ params, resolve s sources = .ok params → ∀ (p : Param) path,
      p.named? params = some path →
        path ≠ "" ∧ (Text.isBlank path = true ↔ p.IsWhite s sources) := by
    intro params h p path hpath
    obtain ⟨found, hfound, -, hpaths⟩ := resolve_ok h p
    obtain ⟨usual, husual, rfl⟩ := hpaths path hpath
    rw [isWhite_iff, hfound]
    cases found with
    | none =>
        -- The default stands in, and no default is blank.
        have hstandard : usual ≠ "" ∧ Text.isBlank usual = false := by
          cases p <;> cases husual <;> decide
        simp [hstandard]
    | some value =>
        obtain ⟨-, -, -, hne⟩ := given_eq_some_iff.1 hfound
        simp [hne]
  refine
    { absent := ?_
      named := hnamed
      filter := ?_
      word := ?_ }
  · rintro p raw ⟨source, hsource, hraw⟩ hblank
    have hempty : unquoted p.name raw = .ok "" :=
      hblank.elim unquoted_of_blank fun hquoted => unquoted_eq_ok_iff.2 (Or.inl hquoted)
    have hgiven : given s p.name (p.source? sources) = given s p.name none := by
      rw [hsource, given_of_load hraw, hempty]
      rfl
    calc
      resolve s sources = resolve s (sources.give p (p.source? sources)) := by
        rw [Param.give_source?]
      _ = resolve s (sources.give p none) := resolve_give_congr hgiven
  · intro params h p path hpath hwhite
    refine ⟨Bool.eq_false_iff.2 fun hblank => hwhite ((hnamed params h p path hpath).2.1 hblank),
      fun value => ?_⟩
    rw [Filter.text, String.toList_ofList, Filter.equals, Filter.written]
    exact ⟨_, List.append_assoc _ _ _⟩
  · intro params h p hword hwhite
    obtain ⟨value, hgiven, hblank⟩ := isWhite_iff.1 hwhite
    obtain ⟨found, hfound, hadmits, -⟩ := resolve_ok h p
    rw [hfound] at hgiven
    exact not_admits_of_isBlank hword hblank (hadmits value (Except.ok.inj hgiven))

/-- White space in a JSON string becomes the name of an attribute, and of a filter. -/
theorem treatsBlanks_quoted :
    let sources : ParamSources :=
      { ParamSources.none with groupAttribute := some (.ofText "\x22 \x22") }
    Param.groupAttribute.IsWhite .none sources ∧
      resolve .none sources = .ok { standard with groupAttribute := " " } ∧
      resolve .none (sources.give .groupAttribute none) = .ok standard ∧
      resolve .none sources ≠ resolve .none (sources.give .groupAttribute none) ∧
      Text.isBlank " " = true ∧ (Filter.equals " " "g").text = "  eq \x22g\x22" := by
  intro sources
  have hquoted : resolve .none sources = .ok { standard with groupAttribute := " " } := by
    rfl
  have hleftOut : resolve .none (sources.give .groupAttribute none) = .ok standard := by
    rfl
  refine ⟨isWhite_iff.2 ⟨" ", rfl, by decide⟩, hquoted, hleftOut, ?_, by decide, by decide +kernel⟩
  rw [hquoted, hleftOut]
  exact fun h => absurd (Except.ok.inj h) (by decide)

end Params

end ScimLookup
