import ScimLookup.Command.Inquiry
import ScimLookup.Proofs.Host.Message

/-!
# Entries of the context

An argument is an entry if more than white space stands before its first equals sign
(`exists_entry?_eq_iff`). In the context that is made of such arguments the last one with a key
counts, with all that stands behind its first equals sign (`holdsLast_ofEntries`).
-/

set_option autoImplicit false

namespace ScimLookup.Command

/-! ## Entries -/

/-- A text is cut at its first equals sign. -/
structure IsCut (text front back : String) : Prop where
  whole : text = front ++ "=" ++ back
  first : '=' ∉ front.toList

/-- A text with an equals sign and more than white space before the first one. -/
def IsEntry (text : String) : Prop :=
  ∃ front back, IsCut text front back ∧ Text.isBlank front = false

/-- What stands before the first equals sign of a text is a key, but for white space around it. -/
def HasKey (text key : String) : Prop :=
  ∃ front back, IsCut text front back ∧ Text.trim front = key

theorem cutAt?_eq_some_iff_isCut {text front back : String} :
    cutAt? '=' text.toList = some (front, back) ↔ IsCut text front back := by
  rw [cutAt?_eq_some_iff]
  constructor
  · rintro ⟨hwhole, hfirst⟩
    refine ⟨String.toList_injective ?_, hfirst⟩
    simpa using hwhole
  · rintro ⟨rfl, hfirst⟩
    exact ⟨by simp, hfirst⟩

/-- There is one first equals sign. -/
theorem IsCut.unique {text front back front' back' : String} (h : IsCut text front back)
    (h' : IsCut text front' back') : front = front' ∧ back = back' := by
  rw [← cutAt?_eq_some_iff_isCut] at h h'
  simpa [h] using h'

theorem IsCut.hasKey_iff {text front back key : String} (h : IsCut text front back) :
    HasKey text key ↔ Text.trim front = key := by
  constructor
  · rintro ⟨front', back', hcut, hkey⟩
    rwa [(h.unique hcut).1]
  · intro hkey
    exact ⟨front, back, h, hkey⟩

theorem entry?_eq_some_iff {text : String} {e : String × String} :
    entry? text = some e ↔
      ∃ front, IsCut text front e.2 ∧ Text.isBlank front = false ∧ Text.trim front = e.1 := by
  obtain ⟨key, value⟩ := e
  constructor
  · intro h
    cases hcut : cutAt? '=' text.toList with
    | none => simp [hcut, entry?] at h
    | some parts =>
        obtain ⟨front, back⟩ := parts
        simp only [hcut, entry?, Option.bind_eq_bind, Option.bind_some] at h
        split at h
        · cases h
        · rename_i hblank
          cases h
          exact ⟨front, cutAt?_eq_some_iff_isCut.1 hcut, by simpa using hblank, rfl⟩
  · rintro ⟨front, hcut, hblank, rfl⟩
    rw [← cutAt?_eq_some_iff_isCut] at hcut
    simp [hcut, entry?, hblank]

theorem exists_entry?_eq_iff {text : String} : (∃ e, entry? text = some e) ↔ IsEntry text := by
  constructor
  · rintro ⟨e, he⟩
    obtain ⟨front, hcut, hblank, -⟩ := entry?_eq_some_iff.1 he
    exact ⟨front, e.2, hcut, hblank⟩
  · rintro ⟨front, back, hcut, hblank⟩
    exact ⟨(Text.trim front, back), entry?_eq_some_iff.2 ⟨front, hcut, hblank, rfl⟩⟩

/-- An entry is put under its key. -/
theorem IsEntry.hasKey_iff {text key : String} (h : IsEntry text) :
    HasKey text key ↔ ∃ value, entry? text = some (key, value) := by
  obtain ⟨front, back, hcut, hblank⟩ := h
  rw [hcut.hasKey_iff]
  constructor
  · intro hkey
    exact ⟨back, entry?_eq_some_iff.2 ⟨front, hcut, hblank, hkey⟩⟩
  · rintro ⟨value, hvalue⟩
    obtain ⟨front', hcut', -, hkey⟩ := entry?_eq_some_iff.1 hvalue
    rwa [(hcut.unique hcut').1]

/-- All elements are mapped where none of them would be left out. -/
theorem mapM_eq_some_iff {α β : Type} {f : α → Option β} {xs : List α} {ys : List β} :
    xs.mapM f = some ys ↔ (∀ x ∈ xs, ∃ y, f x = some y) ∧ ys = xs.filterMap f := by
  induction xs generalizing ys with
  | nil =>
      constructor
      · rintro ⟨⟩
        exact ⟨List.forall_mem_nil _, rfl⟩
      · rintro ⟨-, rfl⟩
        rfl
  | cons x xs ih =>
      rw [List.mapM_cons]
      cases hx : f x with
      | none => simp [hx]
      | some y =>
          simp only [Option.bind_eq_bind, Option.bind_some, Option.bind_eq_some_iff, ih,
            List.forall_mem_cons, hx, exists_eq', true_and, List.filterMap_cons_some hx,
            Option.pure_def, Option.some.injEq]
          constructor
          · rintro ⟨_, ⟨hall, rfl⟩, rfl⟩
            exact ⟨hall, rfl⟩
          · rintro ⟨hall, rfl⟩
            exact ⟨_, ⟨hall, rfl⟩, rfl⟩

/-! ## The context of arguments -/

/-- A context holds what the last of the arguments with each key says: all that stands behind the
first equals sign. -/
structure HoldsLast (c : Context) (arguments : List String) : Prop where
  get?_eq_some_iff : ∀ key value, c.get? key = some value ↔
    ∃ before text after front, arguments = before ++ text :: after ∧ IsCut text front value ∧
      Text.trim front = key ∧ ∀ later ∈ after, ¬ HasKey later key
  get?_eq_none_iff : ∀ key, c.get? key = none ↔ ∀ text ∈ arguments, ¬ HasKey text key

theorem holdsLast_ofEntries {arguments : List String} (h : ∀ text ∈ arguments, IsEntry text) :
    HoldsLast (.ofEntries (arguments.filterMap entry?)) arguments where
  get?_eq_some_iff := by
    intro key value
    rw [Context.get?_ofEntries_eq_some_iff]
    constructor
    · rintro ⟨before, after, hes, hafter⟩
      -- The entry comes from an argument, and the entries behind it from the arguments behind that.
      obtain ⟨texts, texts', rfl, rfl, htexts'⟩ := List.filterMap_eq_append_iff.1 hes
      obtain ⟨skipped, text, later, rfl, -, htext, rfl⟩ := List.filterMap_eq_cons_iff.1 htexts'
      obtain ⟨front, hcut, -, hkey⟩ := entry?_eq_some_iff.1 htext
      refine ⟨texts ++ skipped, text, later, front, by simp, hcut, hkey, ?_⟩
      intro text' htext' hhas
      have hentry : IsEntry text' := h text' (by simp [htext'])
      obtain ⟨value', hvalue'⟩ := hentry.hasKey_iff.1 hhas
      exact hafter (key, value') (List.mem_filterMap.2 ⟨text', htext', hvalue'⟩) rfl
    · rintro ⟨before, text, after, front, rfl, hcut, hkey, hafter⟩
      have htext : entry? text = some (key, value) := by
        obtain ⟨front', back', hcut', hblank⟩ := h text (by simp)
        obtain ⟨rfl, rfl⟩ := hcut.unique hcut'
        exact entry?_eq_some_iff.2 ⟨front, hcut, hblank, hkey⟩
      refine ⟨before.filterMap entry?, after.filterMap entry?, by simp [htext], ?_⟩
      intro e he hkey'
      obtain ⟨text', htext', he'⟩ := List.mem_filterMap.1 he
      have hentry : IsEntry text' := h text' (by simp [htext'])
      exact hafter text' htext' (hentry.hasKey_iff.2 ⟨e.2, by rw [he', ← hkey']⟩)
  get?_eq_none_iff := by
    intro key
    rw [Context.get?_ofEntries_eq_none_iff]
    constructor
    · intro hnone text htext hhas
      obtain ⟨value, hvalue⟩ := (h text htext).hasKey_iff.1 hhas
      exact hnone (key, value) (List.mem_filterMap.2 ⟨text, htext, hvalue⟩) rfl
    · intro hnone e he hkey
      obtain ⟨text, htext, he'⟩ := List.mem_filterMap.1 he
      exact hnone text htext ((h text htext).hasKey_iff.2 ⟨e.2, by rw [he', ← hkey]⟩)

end ScimLookup.Command
