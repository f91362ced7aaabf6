import ScimLookup.Json.Reader

/-!
# Readings that succeed

What a reading that gave a value has done on the way, step by step.
-/

set_option autoImplicit false

namespace ScimLookup

/-- What a computation in two steps that gives a result has done. -/
theorem ok_of_bind {ε α β : Type} {x : Except ε α} {f : α → Except ε β} {b : β}
    (h : x >>= f = .ok b) : ∃ a, x = .ok a ∧ f a = .ok b := by
  cases x with
  | error e => cases h
  | ok a => exact ⟨a, rfl, h⟩

theorem bind_unit_ok_iff {ε β : Type} {x : Except ε Unit} {f : Unit → Except ε β} {b : β} :
    x >>= f = .ok b ↔ x = .ok () ∧ f () = .ok b := by
  constructor
  · intro h
    obtain ⟨⟨⟩, hx, hf⟩ := ok_of_bind h
    exact ⟨hx, hf⟩
  · rintro ⟨hx, hf⟩
    rw [hx]
    exact hf

/-- A list is mapped if each of its parts is. -/
theorem mapM_middle_ok_iff {ε α β : Type} {f : α → Except ε β} {xs xs' : List α} {x : α}
    {ys : List β} :
    (xs ++ x :: xs').mapM f = .ok ys ↔
      ∃ zs z zs', xs.mapM f = .ok zs ∧ f x = .ok z ∧ xs'.mapM f = .ok zs' ∧ ys = zs ++ z :: zs' := by
  rw [List.mapM_append, List.mapM_cons]
  constructor
  · intro h
    obtain ⟨zs, hzs, h⟩ := ok_of_bind h
    obtain ⟨rest, hrest, h⟩ := ok_of_bind h
    obtain ⟨z, hz, hrest⟩ := ok_of_bind hrest
    obtain ⟨zs', hzs', hrest⟩ := ok_of_bind hrest
    cases hrest
    cases h
    exact ⟨zs, z, zs', hzs, hz, hzs', rfl⟩
  · rintro ⟨zs, z, zs', hzs, hz, hzs', rfl⟩
    rw [hzs, hz, hzs']
    rfl

section FoldlM

variable {ε α β : Type} {f : β → α → Except ε β} {xs : List α} {b b' : β}

/-- What each step preserves holds after all of them. -/
theorem invariant_of_foldlM {p : β → Prop} (hstep : ∀ b a b', p b → f b a = .ok b' → p b')
    (hb : p b) (h : xs.foldlM f b = .ok b') : p b' := by
  induction xs generalizing b with
  | nil =>
      cases h
      exact hb
  | cons a xs ih =>
      rw [List.foldlM_cons] at h
      obtain ⟨b₁, hfirst, hrest⟩ := ok_of_bind h
      exact ih (hstep b a b₁ hb hfirst) hrest

/-- What each step demands of its item holds of all items. -/
theorem forall_of_foldlM {p : α → Prop} (hstep : ∀ b a b', f b a = .ok b' → p a)
    (h : xs.foldlM f b = .ok b') : ∀ a ∈ xs, p a := by
  induction xs generalizing b with
  | nil =>
      intro a ha
      cases ha
  | cons a xs ih =>
      rw [List.foldlM_cons] at h
      obtain ⟨b₁, hfirst, hrest⟩ := ok_of_bind h
      intro a' ha'
      rcases List.mem_cons.1 ha' with rfl | ha'
      · exact hstep b a' b₁ hfirst
      · exact ih hrest a' ha'

end FoldlM

namespace Json

variable {α β : Type}

/-- A list is read from the items of an array, in order. -/
theorem Reader.list_ok {r : Reader α} {d : Doc} {xs : List α} (h : Reader.list r d = .ok xs) :
    ∃ items fault, d = .array items fault ∧ items.mapM r = .ok xs := by
  unfold Reader.list at h
  split at h
  · rename_i items fault
    obtain ⟨ys, hys, h⟩ := ok_of_bind h
    obtain ⟨-, -, h⟩ := ok_of_bind h
    cases h
    exact ⟨items, fault, rfl, hys⟩
  · cases h

theorem Reader.checked_ok {r : Reader α} {d : Doc} {a : α} (h : r d = .ok a) :
    r.checked d = .ok () := by
  rw [Reader.checked, h]
  rfl

/-- What is not `null` is read as a value. -/
theorem Reader.optional_of_ne_null (r : Reader α) {d : Doc} (h : d ≠ .null) :
    r.optional d = (r d).map some := by
  cases d with
  | null => exact absurd rfl h
  | _ => rfl

/-- The fields of two records are read one after the other. -/
theorem Record.seq_build_ok {f : Record (α → β)} {x : Record α} {shape : Shape}
    {find : String → Option Doc} {b : β} (h : (f <*> x).build shape find = .ok b) :
    ∃ g a, f.build shape find = .ok g ∧ x.build shape find = .ok a ∧ b = g a := by
  obtain ⟨g, hg, h⟩ := ok_of_bind h
  obtain ⟨a, ha, h⟩ := ok_of_bind h
  cases h
  exact ⟨g, a, hg, ha, rfl⟩

theorem Record.seq_build_of_ok {f : Record (α → β)} {x : Record α} {shape : Shape}
    {find : String → Option Doc} {g : α → β} {a : α} (hf : f.build shape find = .ok g)
    (hx : x.build shape find = .ok a) : (f <*> x).build shape find = .ok (g a) := by
  show (f.build shape find >>= fun g => x.build shape find >>= fun a => .ok (g a)) = _
  rw [hf, hx]
  rfl

end Json

end ScimLookup
