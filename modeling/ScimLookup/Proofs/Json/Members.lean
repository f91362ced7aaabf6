import ScimLookup.Proofs.Json.Record

/-!
# Members that a record knows

A record reads an object member by member, and its check keeps the names that have come. What it makes
of the object depends on less: each member passes by itself (`Record.Admits`), and the members that are
fields, with their names (`Record.known`), have different names. The check says exactly this
(`Record.checkMembers_ok_iff`), and the documents of the fields are those of the known members
(`Record.findMember_eq_lookup`).
-/

set_option autoImplicit false

namespace ScimLookup.Json

/-! ## Lists of named things -/

section Lookup

variable {β : Type} {l l' : List (String × β)} {name : String} {b : β}

theorem mem_of_lookup (h : l.lookup name = some b) : (name, b) ∈ l := by
  obtain ⟨l₁, l₂, rfl, -⟩ := List.lookup_eq_some_iff.1 h
  exact List.mem_append_right l₁ List.mem_cons_self

/-- What stands in a list under a name of its own is found there. -/
theorem lookup_of_mem (hnodup : (l.map Prod.fst).Nodup) (h : (name, b) ∈ l) :
    l.lookup name = some b := by
  induction l with
  | nil => cases h
  | cons x xs ih =>
      obtain ⟨hnew, hrest⟩ := List.nodup_cons.1 hnodup
      rcases List.mem_cons.1 h with rfl | h
      · exact List.lookup_cons_self
      · have hne : name ≠ x.1 := by
          rintro rfl
          exact hnew (List.mem_map.2 ⟨_, h, rfl⟩)
        rw [List.lookup_cons, beq_false_of_ne hne]
        exact ih hrest h

theorem lookup_eq_none (h : name ∉ l.map Prod.fst) : l.lookup name = none := by
  rw [List.lookup_eq_none_iff]
  intro x hx
  rw [bne_iff_ne]
  rintro rfl
  exact h (List.mem_map_of_mem hx)

/-- Where names differ, their order does not matter. -/
theorem lookup_eq_of_perm (h : l.Perm l') (hnodup : (l.map Prod.fst).Nodup) (name : String) :
    l.lookup name = l'.lookup name := by
  have hnodup' : (l'.map Prod.fst).Nodup := (h.map Prod.fst).nodup_iff.1 hnodup
  apply Option.ext
  intro b
  constructor
  · intro hb
    exact lookup_of_mem hnodup' (h.mem_iff.1 (mem_of_lookup hb))
  · intro hb
    exact lookup_of_mem hnodup (h.mem_iff.2 (mem_of_lookup hb))

/-- A thing in the middle of a list is found unless one of its name stands before it. -/
theorem lookup_middle (l l' : List (String × β)) (key name : String) (b : β) :
    (l ++ (key, b) :: l').lookup name =
      (l.lookup name).or (if name = key then some b else l'.lookup name) := by
  rw [List.lookup_append, List.lookup_cons]
  by_cases hname : name = key
  · rw [if_pos hname, beq_iff_eq.2 hname]
  · rw [if_neg hname, beq_false_of_ne hname]

end Lookup

/-! ## Members -/

namespace Record

variable {α : Type} (r : Record α)

/-- The member under its name, if the name is one of a field. -/
def known? (m : Doc × Doc) : Option (String × Doc) :=
  match Reader.name m.1 with
  | .ok name => if (r.fields.lookup name).isSome then some (name, m.2) else none
  | .error _ => none

/-- The members that are fields, under their names. -/
def known (ms : List (Doc × Doc)) : List (String × Doc) :=
  ms.filterMap r.known?

/-- The member passes by itself: its name is a text, and its value passes the check of the field of
this name, or can be skipped if there is no such field. -/
def Admits (m : Doc × Doc) : Prop :=
  ∃ name, Reader.name m.1 = .ok name ∧
    match r.fields.lookup name with
    | some check => check m.2 = .ok ()
    | none => m.2.skip = .ok ()

variable {r} {m : Doc × Doc} {ms : List (Doc × Doc)} {name : String}

theorem known?_of_field {check : Doc → Except Fault Unit} (hname : Reader.name m.1 = .ok name)
    (hfield : r.fields.lookup name = some check) : r.known? m = some (name, m.2) := by
  rw [known?, hname]
  simp only [hfield]
  rfl

theorem known?_of_unknown (hname : Reader.name m.1 = .ok name)
    (hfield : r.fields.lookup name = none) : r.known? m = none := by
  rw [known?, hname]
  simp only [hfield]
  rfl

theorem known?_of_error {f : Fault} (hname : Reader.name m.1 = .error f) : r.known? m = none := by
  rw [known?, hname]

/-- A member that is a field passes if its value does. -/
theorem admits_iff_of_field {check : Doc → Except Fault Unit} (hname : Reader.name m.1 = .ok name)
    (hfield : r.fields.lookup name = some check) : r.Admits m ↔ check m.2 = .ok () := by
  constructor
  · rintro ⟨key, hkey, hpass⟩
    cases hkey.symm.trans hname
    rwa [hfield] at hpass
  · intro hpass
    refine ⟨name, hname, ?_⟩
    rwa [hfield]

/-- A member that is no field passes if its value can be skipped. -/
theorem admits_iff_of_unknown (hname : Reader.name m.1 = .ok name)
    (hfield : r.fields.lookup name = none) : r.Admits m ↔ m.2.skip = .ok () := by
  constructor
  · rintro ⟨key, hkey, hpass⟩
    cases hkey.symm.trans hname
    rwa [hfield] at hpass
  · intro hpass
    refine ⟨name, hname, ?_⟩
    rwa [hfield]

/-- The name of a known member is the name of a member. -/
theorem name_of_mem_known (h : name ∈ (r.known ms).map Prod.fst) :
    ∃ m ∈ ms, Reader.name m.1 = .ok name := by
  obtain ⟨⟨key, d⟩, hmem, rfl⟩ := List.mem_map.1 h
  obtain ⟨m, hm, hknown⟩ := List.mem_filterMap.1 hmem
  refine ⟨m, hm, ?_⟩
  rw [known?] at hknown
  split at hknown
  · rename_i name hname
    split at hknown
    · cases hknown
      exact hname
    · cases hknown
  · cases hknown

theorem known_cons_of_field {check : Doc → Except Fault Unit} (hname : Reader.name m.1 = .ok name)
    (hfield : r.fields.lookup name = some check) (ms : List (Doc × Doc)) :
    r.known (m :: ms) = (name, m.2) :: r.known ms :=
  List.filterMap_cons_some (known?_of_field hname hfield)

theorem known_cons_of_unknown (hname : Reader.name m.1 = .ok name)
    (hfield : r.fields.lookup name = none) (ms : List (Doc × Doc)) :
    r.known (m :: ms) = r.known ms :=
  List.filterMap_cons_none (known?_of_unknown hname hfield)

theorem known_append (ms ns : List (Doc × Doc)) : r.known (ms ++ ns) = r.known ms ++ r.known ns :=
  List.filterMap_append

theorem checkMembers_cons_of_unknown (hname : Reader.name m.1 = .ok name)
    (hfield : r.fields.lookup name = none) (seen : List String) (ms : List (Doc × Doc)) :
    r.checkMembers seen (m :: ms) = m.2.skip >>= fun _ => r.checkMembers seen ms := by
  obtain ⟨nameDoc, d⟩ := m
  rw [checkMembers, hname]
  simp only [bind, Except.bind, hfield]

theorem checkMembers_cons_of_field {check : Doc → Except Fault Unit}
    (hname : Reader.name m.1 = .ok name) (hfield : r.fields.lookup name = some check)
    (seen : List String) (ms : List (Doc × Doc)) :
    r.checkMembers seen (m :: ms) =
      if name ∈ seen then .error .mismatch
      else check m.2 >>= fun _ => r.checkMembers (name :: seen) ms := by
  obtain ⟨nameDoc, d⟩ := m
  rw [checkMembers, hname]
  simp only [bind, Except.bind, hfield]
  rfl

/-- **The check of an object passes** if every member passes by itself and no field comes twice. -/
theorem checkMembers_ok_iff {seen : List String} :
    r.checkMembers seen ms = .ok () ↔
      (∀ m ∈ ms, r.Admits m) ∧ ((r.known ms).map Prod.fst).Nodup ∧
        ∀ name ∈ (r.known ms).map Prod.fst, name ∉ seen := by
  induction ms generalizing seen with
  | nil => exact ⟨fun _ => ⟨nofun, .nil, nofun⟩, fun _ => rfl⟩
  | cons m ms ih =>
      rw [List.forall_mem_cons]
      cases hname : Reader.name m.1 with
      | error f =>
          have hcheck : r.checkMembers seen (m :: ms) = .error f := by
            rw [checkMembers, hname]
            rfl
          rw [hcheck]
          refine ⟨nofun, ?_⟩
          rintro ⟨⟨⟨name, hok, -⟩, -⟩, -⟩
          cases hok.symm.trans hname
      | ok name =>
          cases hfield : r.fields.lookup name with
          | none =>
              rw [checkMembers_cons_of_unknown hname hfield, admits_iff_of_unknown hname hfield,
                known_cons_of_unknown hname hfield, bind_unit_ok_iff, ih, and_assoc]
          | some check =>
              rw [checkMembers_cons_of_field hname hfield, admits_iff_of_field hname hfield,
                known_cons_of_field hname hfield, List.map_cons, List.nodup_cons,
                List.forall_mem_cons]
              by_cases hseen : name ∈ seen
              · rw [if_pos hseen]
                exact ⟨nofun, fun h => absurd hseen h.2.2.1⟩
              · rw [if_neg hseen, bind_unit_ok_iff, ih]
                -- The names that come later differ from this one and from those before.
                simp only [List.mem_cons, not_or]
                constructor
                · rintro ⟨hcheck, hrest, hnodup, hnew⟩
                  exact ⟨⟨hcheck, hrest⟩, ⟨fun hmem => (hnew name hmem).1 rfl, hnodup⟩, hseen,
                    fun key hkey => (hnew key hkey).2⟩
                · rintro ⟨⟨hcheck, hrest⟩, ⟨hfirst, hnodup⟩, -, hnew⟩
                  refine ⟨hcheck, hrest, hnodup, fun key hkey => ⟨?_, hnew key hkey⟩⟩
                  rintro rfl
                  exact hfirst hkey

/-- A member is found by its name. -/
theorem findMember_cons {key : String} (hname : Reader.name m.1 = .ok key) (name : String)
    (ms : List (Doc × Doc)) :
    findMember name (m :: ms) = if key = name then some m.2 else findMember name ms := by
  obtain ⟨nameDoc, d⟩ := m
  cases nameDoc with
  | string q =>
      have htext : q.text = .ok key := hname
      rw [findMember, htext]
  | _ => cases hname

theorem findMember_cons_of_error {f : Fault} (hname : Reader.name m.1 = .error f) (name : String)
    (ms : List (Doc × Doc)) : findMember name (m :: ms) = findMember name ms := by
  obtain ⟨nameDoc, d⟩ := m
  cases nameDoc with
  | string q =>
      have htext : q.text = .error f := hname
      rw [findMember, htext]
  | _ => rfl

/-- **The document of a field is the one of the known member.** -/
theorem findMember_eq_lookup {check : Doc → Except Fault Unit}
    (hfield : r.fields.lookup name = some check) (ms : List (Doc × Doc)) :
    findMember name ms = (r.known ms).lookup name := by
  induction ms with
  | nil => rfl
  | cons m ms ih =>
      cases hname : Reader.name m.1 with
      | error f =>
          have hknown : r.known (m :: ms) = r.known ms :=
            List.filterMap_cons_none (known?_of_error hname)
          rw [findMember_cons_of_error hname, hknown, ih]
      | ok key =>
          rw [findMember_cons hname, ih]
          by_cases hkey : key = name
          · subst hkey
            rw [if_pos rfl, known_cons_of_field hname hfield, List.lookup_cons_self]
          · rw [if_neg hkey]
            cases hother : r.fields.lookup key with
            | none => rw [known_cons_of_unknown hname hother]
            | some other =>
                rw [known_cons_of_field hname hother, List.lookup_cons,
                  beq_false_of_ne (Ne.symm hkey)]

/-- **What it takes for a record to read an object as a value.** -/
theorem reader_object_ok_iff {a : α} :
    r.reader (.object ms none) = .ok a ↔
      (∀ m ∈ ms, r.Admits m) ∧ ((r.known ms).map Prod.fst).Nodup ∧
        (r.build .named fun name => findMember name ms) = .ok a := by
  show (r.checkMembers [] ms >>= fun _ => r.build .named fun name => findMember name ms) = _ ↔ _
  rw [bind_unit_ok_iff, checkMembers_ok_iff]
  constructor
  · rintro ⟨⟨hadmits, hnodup, -⟩, hbuild⟩
    exact ⟨hadmits, hnodup, hbuild⟩
  · rintro ⟨hadmits, hnodup, hbuild⟩
    exact ⟨⟨hadmits, hnodup, fun _ _ => List.not_mem_nil⟩, hbuild⟩

/-! ## Items that stand for members -/

section Items

variable {fs fs' : List (String × (Doc → Except Fault Unit))}
  {f : String × (Doc → Except Fault Unit)} {ds ds' : List Doc} {d d' : Doc}

/-- An item may be replaced by one that passes the check of its field as well. -/
theorem checkItems_replace {fault : Option Fault} (hlength : fs.length = ds.length)
    (hpass : f.2 d = .ok () → f.2 d' = .ok ())
    (h : checkItems (fs ++ f :: fs') (ds ++ d :: ds') fault = .ok ()) :
    checkItems (fs ++ f :: fs') (ds ++ d' :: ds') fault = .ok () := by
  induction fs generalizing ds with
  | nil =>
      rw [List.eq_nil_of_length_eq_zero hlength.symm] at h ⊢
      obtain ⟨hd, hrest⟩ := bind_unit_ok_iff.1 h
      exact bind_unit_ok_iff.2 ⟨hpass hd, hrest⟩
  | cons g fs ih =>
      cases ds with
      | nil => cases hlength
      | cons e ds =>
          obtain ⟨he, hrest⟩ := bind_unit_ok_iff.1 h
          exact bind_unit_ok_iff.2 ⟨he, ih (Nat.succ.inj hlength) hrest⟩

/-- An item in the middle stands for its field unless one of the name stands before it. -/
theorem findItem_middle (hlength : fs.length = ds.length) (name : String) :
    findItem name (fs ++ f :: fs') (ds ++ d :: ds') =
      (findItem name fs ds).or (if f.1 = name then some d else findItem name fs' ds') := by
  induction fs generalizing ds with
  | nil =>
      rw [List.eq_nil_of_length_eq_zero hlength.symm]
      rfl
  | cons g fs ih =>
      cases ds with
      | nil => cases hlength
      | cons e ds =>
          rw [List.cons_append, List.cons_append, findItem, findItem, ih (Nat.succ.inj hlength)]
          by_cases hname : g.1 = name
          · rw [if_pos hname, if_pos hname]
            rfl
          · rw [if_neg hname, if_neg hname]

theorem reader_array_ok_iff {r : Record α} {a : α} :
    r.reader (.array ds none) = .ok a ↔
      checkItems r.fields ds none = .ok () ∧
        (r.build .positional fun name => findItem name r.fields ds) = .ok a :=
  bind_unit_ok_iff

end Items

/-! ## Records that differ in their last field -/

section LastField

variable {β : Type} {r : Record α} {r' : Record β}
  {fs fs' : List (String × (Doc → Except Fault Unit))} {check check' : Doc → Except Fault Unit}
  {key : String} {d : Doc} {ds : List Doc}

theorem isSome_lookup_of_names (h : fs.map Prod.fst = fs'.map Prod.fst) (key : String) :
    (fs.lookup key).isSome = (fs'.lookup key).isSome := by
  induction fs generalizing fs' with
  | nil =>
      cases fs' with
      | nil => rfl
      | cons f' fs' => cases h
  | cons f fs ih =>
      cases fs' with
      | nil => cases h
      | cons f' fs' =>
          obtain ⟨hname, hrest⟩ := List.cons.inj h
          have hname : f.1 = f'.1 := hname
          rw [List.lookup_cons, List.lookup_cons, ← hname]
          cases key == f.1 with
          | true => rfl
          | false => exact ih hrest

/-- Which members are known depends on the names of the fields only. -/
theorem known_eq_of_names (h : r.fields.map Prod.fst = r'.fields.map Prod.fst)
    (ms : List (Doc × Doc)) : r.known ms = r'.known ms := by
  have hsame : r.known? = r'.known? := by
    funext m
    rw [known?, known?]
    cases Reader.name m.1 with
    | error f => rfl
    | ok key => simp only [isSome_lookup_of_names h]
  rw [known, known, hsame]

/-- Which item stands for a field depends on the names of the fields only. -/
theorem findItem_eq_of_names (h : fs.map Prod.fst = fs'.map Prod.fst) (key : String)
    (ds : List Doc) : findItem key fs ds = findItem key fs' ds := by
  induction fs generalizing fs' ds with
  | nil =>
      cases fs' with
      | nil => rfl
      | cons f' fs' => cases h
  | cons f fs ih =>
      cases fs' with
      | nil => cases h
      | cons f' fs' =>
          obtain ⟨hname, hrest⟩ := List.cons.inj h
          have hname : f.1 = f'.1 := hname
          cases ds with
          | nil => rfl
          | cons d ds => rw [findItem, findItem, ← hname, ih hrest]

/-- Another check of the last field passes too if it passes what stands for that field. -/
theorem checkItems_of_last {fault : Option Fault} (hkey : key ∉ fs.map Prod.fst)
    (h : checkItems (fs ++ [(key, check)]) ds fault = .ok ())
    (hlast : ∀ d, findItem key (fs ++ [(key, check)]) ds = some d → check' d = .ok ()) :
    checkItems (fs ++ [(key, check')]) ds fault = .ok () := by
  induction fs generalizing ds with
  | nil =>
      cases ds with
      | nil => exact h
      | cons d ds =>
          obtain ⟨-, hrest⟩ := bind_unit_ok_iff.1 h
          exact bind_unit_ok_iff.2 ⟨hlast d (if_pos rfl), hrest⟩
  | cons f fs ih =>
      rw [List.map_cons, List.mem_cons, not_or] at hkey
      cases ds with
      | nil => exact h
      | cons d ds =>
          obtain ⟨hd, hrest⟩ := bind_unit_ok_iff.1 h
          refine bind_unit_ok_iff.2 ⟨hd, ih hkey.2 hrest fun e he => hlast e ?_⟩
          rw [List.cons_append, findItem, if_neg (Ne.symm hkey.1)]
          exact he

/-- Another check of the last field admits a member too if it passes the documents under that
name. -/
theorem Admits.of_last {m : Doc × Doc} (hr : r.fields = fs ++ [(key, check)])
    (hr' : r'.fields = fs ++ [(key, check')]) (h : r.Admits m)
    (hlast : Reader.name m.1 = .ok key → check' m.2 = .ok ()) : r'.Admits m := by
  obtain ⟨name, hname, hpass⟩ := h
  refine ⟨name, hname, ?_⟩
  rw [hr, List.lookup_append] at hpass
  rw [hr', List.lookup_append]
  cases hfield : fs.lookup name with
  | some check =>
      rw [hfield] at hpass
      exact hpass
  | none =>
      rw [hfield] at hpass
      simp only [Option.none_or, List.lookup_cons, List.lookup_nil] at hpass ⊢
      cases hkey : name == key with
      | true =>
          rw [beq_iff_eq] at hkey
          subst hkey
          exact hlast hname
      | false =>
          rw [hkey] at hpass
          exact hpass

/-- **Two records that differ in how they take their last field** read the same documents, if the
second takes the document of that field wherever the first one does. -/
theorem reader_of_last {a : α} {b : β} (hkey : key ∉ fs.map Prod.fst)
    (hr : r.fields = fs ++ [(key, check)]) (hr' : r'.fields = fs ++ [(key, check')])
    (hbuild : ∀ shape find, r.build shape find = .ok a →
      (∀ d, find key = some d → check' d = .ok ()) ∧ r'.build shape find = .ok b)
    (h : r.reader d = .ok a) : r'.reader d = .ok b := by
  have hnames : r.fields.map Prod.fst = r'.fields.map Prod.fst := by
    rw [hr, hr', List.map_append, List.map_append]
    rfl
  cases d with
  | object ms fault =>
      cases fault with
      | some f =>
          obtain ⟨-, hraise⟩ := bind_unit_ok_iff.1 h
          cases hraise
      | none =>
          obtain ⟨hadmits, hnodup, hvalue⟩ := reader_object_ok_iff.1 h
          obtain ⟨hlast, hvalue'⟩ := hbuild _ _ hvalue
          refine reader_object_ok_iff.2 ⟨?_, by rwa [← known_eq_of_names hnames], hvalue'⟩
          intro m hm
          refine (hadmits m hm).of_last hr hr' fun hname => hlast m.2 ?_
          -- The names of fields differ, so the member that has the name is the one that is found.
          have hfield : r.fields.lookup key = some check := by
            rw [hr, List.lookup_append, lookup_eq_none hkey]
            exact List.lookup_cons_self
          rw [findMember_eq_lookup hfield]
          refine lookup_of_mem hnodup (List.mem_filterMap.2 ⟨m, hm, ?_⟩)
          exact known?_of_field hname hfield
  | array ds fault =>
      obtain ⟨hitems, hvalue⟩ := bind_unit_ok_iff.1 h
      obtain ⟨hlast, hvalue'⟩ := hbuild _ _ hvalue
      have hfind : (fun name => findItem name r.fields ds) =
          fun name => findItem name r'.fields ds :=
        funext fun name => findItem_eq_of_names hnames name ds
      rw [hr] at hitems hlast
      refine bind_unit_ok_iff.2 ⟨?_, ?_⟩
      · rw [hr']
        exact checkItems_of_last hkey hitems hlast
      · rw [← hfind]
        exact hvalue'
  | _ => cases h

end LastField

end Record

end ScimLookup.Json
