import ScimLookup.Proofs.Json.Members
import ScimLookup.Proofs.Json.Written

/-!
# Readers that give back what is written

A reader belongs to a way of writing if it gives back every value that is written this way
(`Reader.ReadsBack`); then it reads the value from both texts (`Reader.ReadsBack.ofBytes_compact`).
A record reads an object whose members have different names, all of them fields, as what it builds
from the members (`Record.reader_ofObject`).
-/

set_option autoImplicit false

namespace ScimLookup.Json

variable {α : Type}

/-- The reader gives back every value that is written this way. -/
def Reader.ReadsBack (r : Reader α) (write : α → Value) : Prop :=
  ∀ a, r (Doc.ofValue (write a)) = .ok a

namespace Reader

/-! ## Readers of simple types -/

theorem text_readsBack : Reader.text.ReadsBack .string :=
  fun _ => rfl

theorem bool_readsBack : Reader.bool.ReadsBack .bool :=
  fun _ => rfl

/-- A whole number within the bounds, and within 64 bits, is read. -/
theorem wholeIn_ofValue {low high n : Int} (hbounds : low ≤ n ∧ n ≤ high)
    (hword : -0x8000000000000000 ≤ n ∧ n ≤ 0xFFFFFFFFFFFFFFFF) :
    Reader.wholeIn low high (Doc.ofValue (.number n)) = .ok n := by
  rw [Doc.ofValue, Reader.wholeIn, Numeral.ofInt_value hword]
  simp only [bind, Except.bind, if_pos hbounds]
  rfl

theorem word32_readsBack : Reader.word32.ReadsBack fun n => .number n.toNat := by
  intro n
  have hn := n.toNat_lt
  rw [Reader.word32, wholeIn_ofValue (by omega) (by omega), Except.map, Int.toNat_natCast,
    UInt32.ofNat_toNat]

theorem signed64_readsBack : Reader.signed64.ReadsBack fun n => .number n.toInt := by
  intro n
  have hlow := n.le_toInt
  have hhigh := n.toInt_lt
  rw [Reader.signed64, wholeIn_ofValue (by omega) (by omega), Except.map, Int64.ofInt_toInt]

/-- A list is read item by item. -/
theorem ReadsBack.list {r : Reader α} {write : α → Value} (h : r.ReadsBack write) :
    (Reader.list r).ReadsBack fun as => .array (as.map write) := by
  have hitems : ∀ as : List α, (Doc.ofItems (as.map write)).mapM r = .ok as := by
    intro as
    induction as with
    | nil => rfl
    | cons a as ih =>
        rw [List.map_cons, Doc.ofItems, List.mapM_cons, h a, ih]
        rfl
  intro as
  rw [Doc.ofValue, Reader.list, hitems as]
  rfl

/-- A value that is never `null` is read where it may be left out. -/
theorem ReadsBack.optional {r : Reader α} {write : α → Value} (h : r.ReadsBack write) {a : α}
    (hnull : write a ≠ .null) : r.optional (Doc.ofValue (write a)) = .ok (some a) := by
  have hdoc : Doc.ofValue (write a) ≠ .null := by
    cases hw : write a with
    | null => exact absurd hw hnull
    | _ => exact nofun
  rw [Reader.optional_of_ne_null r hdoc, h a]
  rfl

/-! ## Texts -/

theorem ReadsBack.ofBytes {r : Reader α} {write : α → Value} (h : r.ReadsBack write) {a : α}
    {bs : Bytes} (hbs : Document.ofBytes bs = ⟨Doc.ofValue (write a), true⟩) :
    r.ofBytes bs = .ok a := by
  rw [Reader.ofBytes, hbs]
  show (r (Doc.ofValue (write a)) >>= fun a => pure a) = .ok a
  rw [h a]
  rfl

/-- **What is written in compact form is read back.** -/
theorem ReadsBack.ofBytes_compact {r : Reader α} {write : α → Value} (h : r.ReadsBack write)
    (a : α) : r.ofBytes (Utf8.ofString (write a).compact) = .ok a :=
  h.ofBytes (Document.ofBytes_compact (write a))

/-- **What is written on lines is read back.** -/
theorem ReadsBack.ofBytes_pretty {r : Reader α} {write : α → Value} (h : r.ReadsBack write)
    (a : α) : r.ofBytes (Utf8.ofString (write a).pretty) = .ok a :=
  h.ofBytes (Document.ofBytes_pretty (write a))

theorem ReadsBack.ofBytes_line {r : Reader α} {write : α → Value} (h : r.ReadsBack write)
    (a : α) : r.ofBytes (Utf8.ofString ((write a).pretty ++ "\n")) = .ok a :=
  h.ofBytes (Document.ofBytes_line (write a))

end Reader

/-! ## Objects -/

namespace Record

variable {β : Type}

theorem findMember_ofMembers (name : String) (ms : List (String × Value)) :
    findMember name (Doc.ofMembers ms) = (ms.lookup name).map Doc.ofValue := by
  induction ms with
  | nil => rfl
  | cons m ms ih =>
      obtain ⟨key, v⟩ := m
      rw [Doc.ofMembers, findMember_cons (m := Doc.ofMember (key, v)) rfl, List.lookup_cons, ih]
      by_cases hkey : key = name
      · rw [if_pos hkey, beq_iff_eq.2 hkey.symm]
        rfl
      · rw [if_neg hkey, beq_false_of_ne (Ne.symm hkey)]

theorem ofMembers_eq_map (ms : List (String × Value)) : Doc.ofMembers ms = ms.map Doc.ofMember := by
  induction ms with
  | nil => rfl
  | cons m ms ih => rw [Doc.ofMembers, ih, List.map_cons]

/-- A record knows all members that are fields. -/
theorem known_ofMembers {r : Record α} {ms : List (String × Value)}
    (hfields : ∀ m ∈ ms, ∃ check, r.fields.lookup m.1 = some check) :
    (r.known (Doc.ofMembers ms)).map Prod.fst = ms.map Prod.fst := by
  induction ms with
  | nil => rfl
  | cons m ms ih =>
      obtain ⟨name, v⟩ := m
      obtain ⟨check, hfield⟩ := hfields (name, v) List.mem_cons_self
      have hrest := ih fun m hm => hfields m (List.mem_cons_of_mem _ hm)
      rw [Doc.ofMembers, known_cons_of_field (m := Doc.ofMember (name, v)) rfl hfield, List.map_cons,
        List.map_cons, hrest]

/-- **A record reads an object as what it builds from the members**, if they are different fields and
their values pass the checks. -/
theorem reader_ofObject (r : Record α) {ms : List (String × Value)}
    (hnames : (ms.map Prod.fst).Nodup)
    (hchecks : ∀ m ∈ ms, ∃ check, r.fields.lookup m.1 = some check ∧
      check (Doc.ofValue m.2) = .ok ()) :
    r.reader (Doc.ofValue (.object ms)) =
      r.build .named fun name => (ms.lookup name).map Doc.ofValue := by
  have hknown : (r.known (Doc.ofMembers ms)).map Prod.fst = ms.map Prod.fst := by
    apply known_ofMembers
    intro m hm
    obtain ⟨check, hfield, -⟩ := hchecks m hm
    exact ⟨check, hfield⟩
  have hadmits : ∀ m ∈ Doc.ofMembers ms, r.Admits m := by
    rw [ofMembers_eq_map, List.forall_mem_map]
    rintro ⟨name, v⟩ hm
    obtain ⟨check, hfield, hcheck⟩ := hchecks (name, v) hm
    exact (admits_iff_of_field (m := Doc.ofMember (name, v)) rfl hfield).2 hcheck
  have hcheck : r.checkMembers [] (Doc.ofMembers ms) = .ok () :=
    checkMembers_ok_iff.2 ⟨hadmits, by rwa [hknown], fun _ _ => List.not_mem_nil⟩
  have hfind : (fun name => findMember name (Doc.ofMembers ms)) =
      fun name => (ms.lookup name).map Doc.ofValue :=
    funext fun name => findMember_ofMembers name ms
  rw [Doc.ofValue, reader, hcheck, hfind]
  rfl

/-! ## Fields -/

/-- The record reads these members as the value: they are fields, in their order; what they hold
passes the checks; and with them and nothing else under the names of its fields the record builds
the value. -/
structure Reads (r : Record α) (ms : List (String × Value)) (a : α) : Prop where
  names : (ms.map Prod.fst).Sublist (r.fields.map Prod.fst)
  checks : ∀ m ∈ ms, ∃ check, (m.1, check) ∈ r.fields ∧ check (Doc.ofValue m.2) = .ok ()
  build : (r.fields.map Prod.fst).Nodup → ∀ find : String → Option Doc,
    (∀ name ∈ r.fields.map Prod.fst, find name = (ms.lookup name).map Doc.ofValue) →
    r.build .named find = .ok a

namespace Reads

variable {β : Type} {name : String} {r : Reader α} {write : α → Value}

theorem pure (a : α) : (Record.pure a).Reads [] a where
  names := .slnil
  checks := fun _ hm => absurd hm List.not_mem_nil
  build := fun _ _ _ => rfl

/-- **The members of two records are read one after the other.** -/
theorem seq {f : Record (α → β)} {x : Record α} {ms ns : List (String × Value)} {g : α → β} {a : α}
    (hf : f.Reads ms g) (hx : x.Reads ns a) : (f <*> x).Reads (ms ++ ns) (g a) where
  names := by
    show ((ms ++ ns).map Prod.fst).Sublist ((f.fields ++ x.fields).map Prod.fst)
    rw [List.map_append, List.map_append]
    exact hf.names.append hx.names
  checks := by
    intro m hm
    rcases List.mem_append.1 hm with hm | hm
    · obtain ⟨check, hmem, hcheck⟩ := hf.checks m hm
      exact ⟨check, List.mem_append_left _ hmem, hcheck⟩
    · obtain ⟨check, hmem, hcheck⟩ := hx.checks m hm
      exact ⟨check, List.mem_append_right _ hmem, hcheck⟩
  build := by
    intro hnodup find hfind
    change ((f.fields ++ x.fields).map Prod.fst).Nodup at hnodup
    change ∀ name ∈ (f.fields ++ x.fields).map Prod.fst, _ at hfind
    rw [List.map_append] at hnodup hfind
    obtain ⟨hfirst, hsecond, hdisjoint⟩ := List.nodup_append.1 hnodup
    -- No field of one record has a member among those of the other.
    have hg : f.build .named find = .ok g := by
      apply hf.build hfirst
      intro name hname
      have hnone : ns.lookup name = none := List.lookup_eq_none_iff.2 fun m hm => by
        have hmem := hx.names.subset (List.mem_map_of_mem hm)
        exact bne_iff_ne.2 (hdisjoint name hname m.1 hmem)
      rw [hfind name (List.mem_append_left _ hname), List.lookup_append, hnone, Option.or_none]
    have ha : x.build .named find = .ok a := by
      apply hx.build hsecond
      intro name hname
      have hnone : ms.lookup name = none := List.lookup_eq_none_iff.2 fun m hm => by
        have hmem := hf.names.subset (List.mem_map_of_mem hm)
        exact bne_iff_ne.2 (hdisjoint m.1 hmem name hname).symm
      rw [hfind name (List.mem_append_right _ hname), List.lookup_append, hnone, Option.none_or]
    show (f.build .named find >>= fun g => x.build .named find >>= fun a => Pure.pure (g a)) = _
    rw [hg, ha]
    rfl

theorem map {x : Record α} {ms : List (String × Value)} {a : α} (hx : x.Reads ms a) (g : α → β) :
    (g <$> x).Reads ms (g a) :=
  (Reads.pure g).seq hx

/-- A field that is there is read as what was written. -/
theorem field (h : r.ReadsBack write) (absent : Shape → Option α) (a : α) :
    (Record.field name r absent).Reads [(name, write a)] a where
  names := .refl [name]
  checks := by
    intro m hm
    rw [List.mem_singleton.1 hm]
    exact ⟨_, List.mem_singleton_self _, Reader.checked_ok (h a)⟩
  build := by
    intro _ find hfind
    have hfound : find name = some (Doc.ofValue (write a)) := by
      rw [hfind name List.mem_cons_self, List.lookup_cons_self]
      rfl
    rw [Record.field]
    simp only [hfound, h a]

/-- A field that is left out is read as what stands in for it. -/
theorem absent {absent : Shape → Option α} {a : α} (ha : absent .named = some a) :
    (Record.field name r absent).Reads [] a where
  names := List.nil_sublist _
  checks := fun _ hm => absurd hm List.not_mem_nil
  build := by
    intro _ find hfind
    have hnone : find name = none := hfind name List.mem_cons_self
    rw [Record.field]
    simp only [hnone, ha]

theorem required (h : r.ReadsBack write) (a : α) :
    (Record.required name r).Reads [(name, write a)] a :=
  field h _ a

theorem defaulted (h : r.ReadsBack write) (standard a : α) :
    (Record.defaulted name r standard).Reads [(name, write a)] a :=
  field h _ a

/-- A field that may be left out is there if its value is, unless the value could be taken for
`null`. -/
theorem option (h : r.ReadsBack write) (hnull : ∀ a, write a ≠ .null)
    {absent : Shape → Option (Option α)} (habsent : absent .named = some none) (o : Option α) :
    (Record.field name r.optional absent).Reads (o.map fun a => (name, write a)).toList o := by
  cases o with
  | none => exact Reads.absent habsent
  | some a =>
      have hread : r.optional.ReadsBack fun o => (o.map write).getD .null := by
        intro o
        cases o with
        | none => rfl
        | some a => exact h.optional (hnull a)
      exact Reads.field hread absent (some a)

theorem optional (h : r.ReadsBack write) (hnull : ∀ a, write a ≠ .null) (o : Option α) :
    (Record.optional name r).Reads (o.map fun a => (name, write a)).toList o := by
  rw [Record.optional, Record.defaulted]
  exact option h hnull rfl o

theorem nullable (h : r.ReadsBack write) (hnull : ∀ a, write a ≠ .null) (o : Option α) :
    (Record.nullable name r).Reads (o.map fun a => (name, write a)).toList o := by
  rw [Record.nullable]
  exact option h hnull rfl o

/-- **A record whose fields differ gives back what is written as the members that it reads.** -/
theorem readsBack {r : Record α} {members : α → List (String × Value)}
    (hnodup : (r.fields.map Prod.fst).Nodup) (h : ∀ a, r.Reads (members a) a) :
    r.reader.ReadsBack fun a => .object (members a) := by
  intro a
  rw [reader_ofObject r (hnodup.sublist (h a).names)]
  · exact (h a).build hnodup _ fun name _ => rfl
  · intro m hm
    obtain ⟨check, hmem, hcheck⟩ := (h a).checks m hm
    exact ⟨check, lookup_of_mem hnodup hmem, hcheck⟩

end Reads

end Record

end ScimLookup.Json
