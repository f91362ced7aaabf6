import ScimLookup.Host.Message
import ScimLookup.Proofs.Json.ReadBack

/-!
# Messages of the host are read back

Every message is an object of fields that must be there, but for the context of a question. That is
an object with names of its own: no key stands twice in a context, so none of its entries is put in
the place of another when it is read (`Context.readsBack`). Where a key does stand twice in the
entries that a context is made from, the last one counts (`Context.get?_ofEntries_eq_some_iff`).
-/

set_option autoImplicit false

namespace ScimLookup

open Json

/-! ## Context -/

namespace Context

/-- Entries with keys of their own are put behind those that are there. -/
theorem entries_foldl_insert {c : Context} {es : List (String × String)}
    (h : (c.entries ++ es).Pairwise (·.1 ≠ ·.1)) : (es.foldl insert c).entries = c.entries ++ es := by
  induction es generalizing c with
  | nil => exact (List.append_nil _).symm
  | cons e es ih =>
      have hkept : (c.insert e).entries = c.entries ++ [e] := by
        have hother : ∀ f ∈ c.entries, (f.1 != e.1) = true := fun f hf =>
          bne_iff_ne.2 ((List.pairwise_append.1 h).2.2 f hf e List.mem_cons_self)
        exact congrArg (· ++ [e]) (List.filter_eq_self.2 hother)
      have hrest : ((c.insert e).entries ++ es).Pairwise (·.1 ≠ ·.1) := by
        rw [hkept, List.append_assoc]
        exact h
      rw [List.foldl_cons, ih hrest, hkept, List.append_assoc]
      rfl

theorem ofEntries_entries (c : Context) : ofEntries c.entries = c := by
  have hentries : (ofEntries c.entries).entries = c.entries := entries_foldl_insert c.distinct
  obtain ⟨es, hdistinct⟩ := c
  generalize ofEntries es = c' at hentries
  cases c'
  cases hentries
  rfl

/-- An entry under another key is found whether or not entries are taken out. -/
theorem lookup_filter_of_ne {es : List (String × String)} {gone key : String} (h : key ≠ gone) :
    (es.filter (·.1 != gone)).lookup key = es.lookup key := by
  induction es with
  | nil => rfl
  | cons f es ih =>
      by_cases hf : f.1 = gone
      · -- The entry that is taken out was passed over by the search as well.
        have hpassed : (key == f.1) = false := by simp [hf, h]
        rw [List.filter_cons_of_neg (by simp [hf]), ih, List.lookup_cons, hpassed]
      · rw [List.filter_cons_of_pos (by simp [hf]), List.lookup_cons, List.lookup_cons, ih]

/-- An entry that is put in is found before those that were there. -/
theorem get?_insert (c : Context) (e : String × String) (key : String) :
    (c.insert e).get? key = ([e].lookup key).or (c.get? key) := by
  rw [get?, insert, List.lookup_append]
  by_cases hkey : key = e.1
  · have hgone : (c.entries.filter (·.1 != e.1)).lookup key = none := by
      apply List.lookup_eq_none_iff.2
      intro f hf
      rw [hkey, bne_comm]
      exact (List.mem_filter.1 hf).2
    have hfound : [e].lookup key = some e.2 := by
      rw [List.lookup_cons, hkey, beq_self_eq_true]
    rw [hgone, hfound]
    rfl
  · have hpassed : [e].lookup key = none := by simp [hkey]
    rw [lookup_filter_of_ne hkey, hpassed, Option.or_none, Option.none_or, get?]

/-- Entries that are put in one after another are found from the last one on. -/
theorem get?_foldl_insert (es : List (String × String)) (c : Context) (key : String) :
    (es.foldl insert c).get? key = (es.reverse.lookup key).or (c.get? key) := by
  induction es generalizing c with
  | nil => rfl
  | cons e es ih =>
      rw [List.foldl_cons, ih, get?_insert, List.reverse_cons, List.lookup_append, Option.or_assoc]

theorem get?_ofEntries (es : List (String × String)) (key : String) :
    (ofEntries es).get? key = es.reverse.lookup key := by
  rw [ofEntries, get?_foldl_insert]
  exact Option.or_none

/-- **The last entry under a key counts.** -/
theorem get?_ofEntries_eq_some_iff {es : List (String × String)} {key value : String} :
    (ofEntries es).get? key = some value ↔
      ∃ before after, es = before ++ (key, value) :: after ∧ ∀ e ∈ after, e.1 ≠ key := by
  rw [get?_ofEntries, List.lookup_eq_some_iff]
  constructor
  · rintro ⟨after, before, hes, hafter⟩
    refine ⟨before.reverse, after.reverse, by simpa using congrArg List.reverse hes, ?_⟩
    intro e he
    exact (bne_iff_ne.1 (hafter e (List.mem_reverse.1 he))).symm
  · rintro ⟨before, after, rfl, hafter⟩
    refine ⟨after.reverse, before.reverse, by simp, ?_⟩
    intro e he
    exact bne_iff_ne.2 (hafter e (List.mem_reverse.1 he)).symm

/-- Nothing is found under a key that no entry has. -/
theorem get?_ofEntries_eq_none_iff {es : List (String × String)} {key : String} :
    (ofEntries es).get? key = none ↔ ∀ e ∈ es, e.1 ≠ key := by
  rw [get?_ofEntries, List.lookup_eq_none_iff]
  constructor
  · intro h e he
    exact (bne_iff_ne.1 (h e (List.mem_reverse.2 he))).symm
  · intro h e he
    exact bne_iff_ne.2 (h e (List.mem_reverse.1 he)).symm

/-- **Contexts are read back.** -/
theorem readsBack : Context.reader.ReadsBack Context.toJson := by
  have hentries : ∀ es : List (String × String),
      (Doc.ofMembers (es.map fun e => (e.1, .string e.2))).mapM (Reader.entry Reader.text) =
        .ok es := by
    intro es
    induction es with
    | nil => rfl
    | cons e es ih =>
        rw [List.map_cons, Doc.ofMembers, List.mapM_cons, ih]
        rfl
  intro c
  rw [Context.reader, Context.toJson, Doc.ofValue, Reader.entries, hentries]
  exact congrArg Except.ok c.ofEntries_entries

theorem reads_field (c : Context) : Context.field.Reads [("authContext", c.toJson)] c :=
  .defaulted readsBack empty c

end Context

/-! ## Messages -/

theorem HostGroup.readsBack : HostGroup.record.reader.ReadsBack HostGroup.toJson :=
  Record.Reads.readsBack (by decide) fun g =>
    (Record.Reads.required Reader.text_readsBack g.id).map _
      |>.seq (.required Reader.text_readsBack g.name)

theorem HostUser.readsBack : HostUser.record.reader.ReadsBack HostUser.toJson :=
  Record.Reads.readsBack (by decide) fun u =>
    (Record.Reads.required Reader.text_readsBack u.id).map _
      |>.seq (.required Reader.text_readsBack u.name)
      |>.seq (.required Reader.text_readsBack u.email)

theorem hostGroups_readBack :
    (Reader.list HostGroup.record.reader).ReadsBack fun gs => .array (gs.map HostGroup.toJson) :=
  HostGroup.readsBack.list

theorem hostUsers_readBack :
    (Reader.list HostUser.record.reader).ReadsBack fun us => .array (us.map HostUser.toJson) :=
  HostUser.readsBack.list

theorem ConfigureRequest.readsBack :
    ConfigureRequest.record.reader.ReadsBack ConfigureRequest.toJson :=
  Record.Reads.readsBack (by decide) fun r =>
    (Record.Reads.required Reader.text_readsBack r.yaml).map _

theorem ConfigureResponse.readsBack :
    ConfigureResponse.record.reader.ReadsBack ConfigureResponse.toJson :=
  Record.Reads.readsBack (by decide) fun _ => .pure _

theorem GetGroupRequest.readsBack :
    GetGroupRequest.record.reader.ReadsBack GetGroupRequest.toJson :=
  Record.Reads.readsBack (by decide) fun r =>
    (Record.Reads.required Reader.text_readsBack r.groupName).map _
      |>.seq r.context.reads_field

theorem GetGroupResponse.readsBack :
    GetGroupResponse.record.reader.ReadsBack GetGroupResponse.toJson :=
  Record.Reads.readsBack (by decide) fun r =>
    (Record.Reads.required HostGroup.readsBack r.group).map _

theorem GetAllGroupsRequest.readsBack :
    GetAllGroupsRequest.record.reader.ReadsBack GetAllGroupsRequest.toJson :=
  Record.Reads.readsBack (by decide) fun r => r.context.reads_field.map _

theorem GetAllGroupsResponse.readsBack :
    GetAllGroupsResponse.record.reader.ReadsBack GetAllGroupsResponse.toJson :=
  Record.Reads.readsBack (by decide) fun r =>
    (Record.Reads.required hostGroups_readBack r.groups).map _

theorem GetUsersForGroupRequest.readsBack :
    GetUsersForGroupRequest.record.reader.ReadsBack GetUsersForGroupRequest.toJson :=
  Record.Reads.readsBack (by decide) fun r =>
    (Record.Reads.required Reader.text_readsBack r.groupId).map _
      |>.seq r.context.reads_field

theorem GetUsersForGroupResponse.readsBack :
    GetUsersForGroupResponse.record.reader.ReadsBack GetUsersForGroupResponse.toJson :=
  Record.Reads.readsBack (by decide) fun r =>
    (Record.Reads.required hostUsers_readBack r.users).map _

theorem GetGroupsForUserRequest.readsBack :
    GetGroupsForUserRequest.record.reader.ReadsBack GetGroupsForUserRequest.toJson :=
  Record.Reads.readsBack (by decide) fun r =>
    (Record.Reads.required Reader.text_readsBack r.userId).map _
      |>.seq r.context.reads_field

theorem GetGroupsForUserResponse.readsBack :
    GetGroupsForUserResponse.record.reader.ReadsBack GetGroupsForUserResponse.toJson :=
  Record.Reads.readsBack (by decide) fun r =>
    (Record.Reads.required hostGroups_readBack r.groups).map _

end ScimLookup
