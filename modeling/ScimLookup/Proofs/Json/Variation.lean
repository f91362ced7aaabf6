import Mathlib.Data.List.Forall2
import Mathlib.Data.List.Nodup
import Mathlib.Logic.Relation
import ScimLookup.Proofs.Json.ReadBack

/-!
# Variations of documents

What the readers of records take no notice of. An outline says which objects of a document are modelled
and which fields they have (`Outline`). A document is varied step by step (`Outline.Step`): the members
of a modelled object are permuted, a member of an unknown name is put in, a field that may be `null`
and is not there is put in as `null`; or one of these happens further inside.

A reader ignores the steps if it reads the same value afterwards (`Reader.Ignores`); then it reads a text
and all its variations as the same value (`Reader.Ignores.tolerates`). A record whose fields treat their
values as the slots of an outline say (`Record.Follows`) ignores the steps of this outline
(`Record.Follows.ignores`), and this is known of a record from its parts.
-/

set_option autoImplicit false

namespace ScimLookup.Json

/-! ## Outlines -/

/-- A field of a modelled object, the outline of its value being of type `σ`. -/
structure Slot (σ : Type) where
  name : String
  /-- The value may be `null`, which is the same as no member. -/
  nullable : Bool
  value : σ

/-- The modelled objects of a document. -/
inductive Outline where
  /-- No modelled object is inside. -/
  | other
  /-- An array, the items having the outline. -/
  | list (item : Outline)
  /-- A modelled object with these fields. -/
  | record (slots : List (Slot Outline))

/-- The document has a text. -/
def Doc.IsWellFormed (d : Doc) : Prop :=
  ∃ bs, Spells (.doc d) bs

/-- One step of varying a document with the outline. An array may stand for a modelled object; then its
items stand for the fields in their order. -/
inductive Outline.Step : Outline → Doc → Doc → Prop where
  /-- The members come in another order. -/
  | permute {slots : List (Slot Outline)} {ms ms' : List (Doc × Doc)} (perm : ms.Perm ms') :
      Step (.record slots) (.object ms none) (.object ms' none)
  /-- A member comes whose name is a text and none of a field. -/
  | unknown {slots : List (Slot Outline)} {ms ms' : List (Doc × Doc)} {q : Quoted} {name : String}
      {d : Doc} (text : q.text = .ok name) (fresh : name ∉ slots.map Slot.name)
      (value : d.IsWellFormed) :
      Step (.record slots) (.object (ms ++ ms') none) (.object (ms ++ (.string q, d) :: ms') none)
  /-- A field that was not there comes as `null`. -/
  | null {slots : List (Slot Outline)} {slot : Slot Outline} {ms ms' : List (Doc × Doc)} {q : Quoted}
      (mem : slot ∈ slots) (nullable : slot.nullable = true) (text : q.text = .ok slot.name)
      (absent : ∀ m ∈ ms ++ ms', Reader.name m.1 ≠ .ok slot.name) :
      Step (.record slots) (.object (ms ++ ms') none) (.object (ms ++ (.string q, .null) :: ms') none)
  /-- A step in the value of a field. -/
  | member {slots : List (Slot Outline)} {slot : Slot Outline} {ms ms' : List (Doc × Doc)} {q : Quoted}
      {d d' : Doc} (mem : slot ∈ slots) (text : q.text = .ok slot.name)
      (value : Step slot.value d d') :
      Step (.record slots) (.object (ms ++ (.string q, d) :: ms') none)
        (.object (ms ++ (.string q, d') :: ms') none)
  /-- A step in an item that stands for a field. -/
  | entry {slots slots' : List (Slot Outline)} {slot : Slot Outline} {ds ds' : List Doc} {d d' : Doc}
      (length : slots.length = ds.length) (value : Step slot.value d d') :
      Step (.record (slots ++ slot :: slots')) (.array (ds ++ d :: ds') none)
        (.array (ds ++ d' :: ds') none)
  /-- A step in an item of a list. -/
  | item {s : Outline} {ds ds' : List Doc} {d d' : Doc} (value : Step s d d') :
      Step (.list s) (.array (ds ++ d :: ds') none) (.array (ds ++ d' :: ds') none)

/-- The second text spells a document that comes by steps from the one that the first text spells. -/
def Outline.Varies (s : Outline) (bs bs' : Bytes) : Prop :=
  ∃ d d', Spells (.doc d) bs ∧ Spells (.doc d') bs' ∧ Relation.ReflTransGen s.Step d d'

/-- Only arrays and objects are varied. -/
theorem Outline.Step.ne_null {s : Outline} {d d' : Doc} (h : s.Step d d') :
    d ≠ .null ∧ d' ≠ .null := by
  cases h with
  | permute perm => exact ⟨nofun, nofun⟩
  | unknown text fresh value => exact ⟨nofun, nofun⟩
  | null mem nullable text absent => exact ⟨nofun, nofun⟩
  | member mem text value => exact ⟨nofun, nofun⟩
  | entry length value => exact ⟨nofun, nofun⟩
  | item value => exact ⟨nofun, nofun⟩

/-! ## Readers -/

variable {α β : Type}

/-- The reader gives the same value after a step. -/
def Reader.Ignores (r : Reader α) (s : Outline) : Prop :=
  ∀ d d' a, s.Step d d' → r d = .ok a → r d' = .ok a

/-- The reader of what is written this way tolerates variations of texts with the outline. -/
structure Reader.Tolerates (r : Reader α) (s : Outline) (write : α → Value) : Prop where
  /-- A text that is read as a value and any variation of it are read as the same value. -/
  varied : ∀ bs bs' a, s.Varies bs bs' → r.ofBytes bs = .ok a → r.ofBytes bs' = .ok a
  /-- Any variation of a value that was written is read as this value. -/
  written : ∀ a bs, s.Varies (Utf8.ofString (write a).compact) bs → r.ofBytes bs = .ok a

theorem Reader.ofBytes_of_spells (r : Reader α) {d : Doc} {bs : Bytes} (h : Spells (.doc d) bs) :
    r.ofBytes bs = r d := by
  rw [Reader.ofBytes, Document.ofBytes_of_spells h]
  show (r d >>= fun a => .ok a) = r d
  cases r d with
  | error f => rfl
  | ok a => rfl

namespace Reader.Ignores

variable {r : Reader α} {s : Outline}

/-- Where no object is modelled, there are no steps. -/
theorem other (r : Reader α) : r.Ignores .other := by
  intro d d' a hstep
  cases hstep

theorem list (h : r.Ignores s) : (Reader.list r).Ignores (.list s) := by
  intro d d' as hstep hok
  cases hstep with
  | @item _ ds ds' d d' value =>
      obtain ⟨items, fault, hitems, hread⟩ := Reader.list_ok hok
      cases hitems
      obtain ⟨xs, x, xs', hxs, hx, hxs', rfl⟩ := mapM_middle_ok_iff.1 hread
      have hread' : (ds ++ d' :: ds').mapM r = .ok (xs ++ x :: xs') :=
        mapM_middle_ok_iff.2 ⟨xs, x, xs', hxs, h d d' x value hx, hxs', rfl⟩
      rw [Reader.list, hread']
      rfl

theorem optional (h : r.Ignores s) : r.optional.Ignores s := by
  intro d d' o hstep hok
  obtain ⟨hd, hd'⟩ := hstep.ne_null
  rw [Reader.optional_of_ne_null r hd] at hok
  rw [Reader.optional_of_ne_null r hd']
  cases hread : r d with
  | error f =>
      rw [hread] at hok
      cases hok
  | ok a => rw [h d d' a hstep hread, ← hok, hread]

/-- What holds of a step holds of any number of them. -/
theorem steps (h : r.Ignores s) {d d' : Doc} {a : α} (hsteps : Relation.ReflTransGen s.Step d d')
    (hok : r d = .ok a) : r d' = .ok a := by
  induction hsteps with
  | refl => exact hok
  | tail _ hstep ih => exact h _ _ a hstep ih

/-- **A text and its variations are read as the same value.** -/
theorem tolerates (h : r.Ignores s) {write : α → Value} (hback : r.ReadsBack write) :
    r.Tolerates s write := by
  have hvaried : ∀ bs bs' a, s.Varies bs bs' → r.ofBytes bs = .ok a → r.ofBytes bs' = .ok a := by
    rintro bs bs' a ⟨d, d', hd, hd', hsteps⟩ hok
    rw [Reader.ofBytes_of_spells r hd] at hok
    rw [Reader.ofBytes_of_spells r hd']
    exact h.steps hsteps hok
  exact ⟨hvaried, fun a bs hvaries => hvaried _ bs a hvaries (hback.ofBytes_compact a)⟩

end Reader.Ignores

/-! ## Fields -/

/-- The field has the name of the slot, and its check takes no notice of the steps of the slot. -/
structure Slot.Fits (slot : Slot Outline) (field : String × (Doc → Except Fault Unit)) : Prop where
  name : field.1 = slot.name
  step : ∀ d d', slot.value.Step d d' → field.2 d = .ok () → field.2 d' = .ok ()
  null : slot.nullable = true → field.2 .null = .ok ()

/-- What is found for a slot before and after a step. -/
inductive Slot.Alike (slot : Slot Outline) : Option Doc → Option Doc → Prop where
  | same (o : Option Doc) : Alike slot o o
  | step {d d' : Doc} (value : slot.value.Step d d') : Alike slot (some d) (some d')
  | null (nullable : slot.nullable = true) : Alike slot none (some .null)

/-- The record has the fields of the slots, and builds the same value from what is alike. -/
structure Record.Follows (r : Record α) (slots : List (Slot Outline)) : Prop where
  fields : List.Forall₂ Slot.Fits slots r.fields
  build : ∀ shape (find find' : String → Option Doc) a,
    (∀ slot ∈ slots, slot.Alike (find slot.name) (find' slot.name)) →
    r.build shape find = .ok a → r.build shape find' = .ok a

namespace Record.Follows

theorem pure (a : α) : (Record.pure a).Follows [] where
  fields := .nil
  build := fun _ _ _ _ _ h => h

/-- **The slots of two records stand one after the other.** -/
theorem seq {f : Record (α → β)} {x : Record α} {slots slots' : List (Slot Outline)}
    (hf : f.Follows slots) (hx : x.Follows slots') : (f <*> x).Follows (slots ++ slots') where
  fields := List.rel_append hf.fields hx.fields
  build := by
    intro shape find find' b halike hok
    obtain ⟨g, a, hg, ha, rfl⟩ := Record.seq_build_ok hok
    have hg' := hf.build shape find find' g
      (fun slot hslot => halike slot (List.mem_append_left _ hslot)) hg
    have ha' := hx.build shape find find' a
      (fun slot hslot => halike slot (List.mem_append_right _ hslot)) ha
    show (f.build shape find' >>= fun g => x.build shape find' >>= fun a => Pure.pure (g a)) = _
    rw [hg', ha']
    rfl

theorem map {x : Record α} {slots : List (Slot Outline)} (hx : x.Follows slots) (g : α → β) :
    (g <$> x).Follows slots :=
  (Follows.pure g).seq hx

variable {name : String} {r : Reader α} {s : Outline}

/-- A field follows its slot. Where the slot is nullable, `null` stands for what is left out. -/
theorem field {nullable : Bool} {absent : Shape → Option α} (h : r.Ignores s)
    (hnull : nullable = true → ∃ a, r .null = .ok a ∧ ∀ shape, absent shape = some a) :
    (Record.field name r absent).Follows [⟨name, nullable, s⟩] where
  fields := by
    refine .cons ⟨rfl, ?_, ?_⟩ .nil
    · intro d d' hstep hok
      obtain ⟨a, ha, -⟩ := ok_of_bind hok
      exact Reader.checked_ok (h d d' a hstep ha)
    · intro hnullable
      obtain ⟨a, ha, -⟩ := hnull hnullable
      exact Reader.checked_ok ha
  build := by
    intro shape find find' a halike hok
    have hfound : Slot.Alike ⟨name, nullable, s⟩ (find name) (find' name) :=
      halike _ List.mem_cons_self
    rw [Record.field] at hok ⊢
    simp only at hok ⊢
    revert hfound hok
    generalize find name = o
    generalize find' name = o'
    intro hok hfound
    cases hfound with
    | same => exact hok
    | step value => exact h _ _ a value hok
    | null hnullable =>
        obtain ⟨b, hb, habsent⟩ := hnull hnullable
        simp only [habsent] at hok
        cases hok
        exact hb

theorem required (h : r.Ignores s) : (Record.required name r).Follows [⟨name, false, s⟩] :=
  field h nofun

theorem defaulted (h : r.Ignores s) (a : α) :
    (Record.defaulted name r a).Follows [⟨name, false, s⟩] :=
  field h nofun

theorem optional (h : r.Ignores s) : (Record.optional name r).Follows [⟨name, true, s⟩] :=
  field h.optional fun _ => ⟨none, rfl, fun _ => rfl⟩

end Record.Follows

/-! ## Records -/

section Fits

variable {slots slots' : List (Slot Outline)} {slot : Slot Outline}
  {fields : List (String × (Doc → Except Fault Unit))}

/-- The names of the fields are those of the slots. -/
theorem Slot.names_of_fits (h : List.Forall₂ Slot.Fits slots fields) :
    fields.map Prod.fst = slots.map Slot.name := by
  induction h with
  | nil => rfl
  | cons hfits _ ih => rw [List.map_cons, List.map_cons, hfits.name, ih]

/-- The field under the name of a slot fits it. -/
theorem Slot.lookup_of_fits (h : List.Forall₂ Slot.Fits slots fields)
    (hnodup : (slots.map Slot.name).Nodup) (hslot : slot ∈ slots) :
    ∃ check, fields.lookup slot.name = some check ∧ slot.Fits (slot.name, check) := by
  have hnames : (fields.map Prod.fst).Nodup := by
    rwa [Slot.names_of_fits h]
  have hfield : ∃ field ∈ fields, slot.Fits field := by
    clear hnodup hnames
    induction h with
    | nil => cases hslot
    | cons hfits _ ih =>
        rcases List.mem_cons.1 hslot with rfl | hslot
        · exact ⟨_, List.mem_cons_self, hfits⟩
        · obtain ⟨field, hmem, hfits⟩ := ih hslot
          exact ⟨field, List.mem_cons_of_mem _ hmem, hfits⟩
  obtain ⟨⟨name, check⟩, hmem, hfits⟩ := hfield
  have hname : name = slot.name := hfits.name
  subst hname
  exact ⟨check, lookup_of_mem hnames hmem, hfits⟩

/-- The field in the place of a slot fits it. -/
theorem Slot.exists_of_fits (h : List.Forall₂ Slot.Fits (slots ++ slot :: slots') fields) :
    ∃ fs field fs', fields = fs ++ field :: fs' ∧ fs.length = slots.length ∧ slot.Fits field := by
  induction slots generalizing fields with
  | nil =>
      obtain ⟨field, fs', hfits, -, rfl⟩ := List.forall₂_cons_left_iff.1 h
      exact ⟨[], field, fs', rfl, rfl, hfits⟩
  | cons s slots ih =>
      obtain ⟨first, rest, -, hrest, rfl⟩ := List.forall₂_cons_left_iff.1 h
      obtain ⟨fs, field, fs', rfl, hlength, hfits⟩ := ih hrest
      exact ⟨first :: fs, field, fs', rfl, congrArg Nat.succ hlength, hfits⟩

end Fits

namespace Record.Follows

variable {r : Record α} {slots : List (Slot Outline)} {slot : Slot Outline}
  {ms ms' : List (Doc × Doc)} {a : α}

/-- An object is read as the same value if what is known of it is alike. -/
theorem reader_object (h : r.Follows slots) (hnodup : (slots.map Slot.name).Nodup)
    (hbuild : (r.build .named fun name => findMember name ms) = .ok a)
    (hadmits : ∀ m ∈ ms', r.Admits m) (hnames : ((r.known ms').map Prod.fst).Nodup)
    (halike : ∀ slot ∈ slots,
      slot.Alike ((r.known ms).lookup slot.name) ((r.known ms').lookup slot.name)) :
    r.reader (.object ms' none) = .ok a := by
  refine reader_object_ok_iff.2 ⟨hadmits, hnames, h.build _ _ _ a (fun slot hslot => ?_) hbuild⟩
  obtain ⟨check, hfield, -⟩ := Slot.lookup_of_fits h.fields hnodup hslot
  rw [findMember_eq_lookup hfield, findMember_eq_lookup hfield]
  exact halike slot hslot

/-- The order of the members does not matter. -/
theorem permute (h : r.Follows slots) (hnodup : (slots.map Slot.name).Nodup) (perm : ms.Perm ms')
    (hok : r.reader (.object ms none) = .ok a) : r.reader (.object ms' none) = .ok a := by
  obtain ⟨hadmits, hnames, hbuild⟩ := reader_object_ok_iff.1 hok
  have hknown : (r.known ms).Perm (r.known ms') := perm.filterMap r.known?
  refine h.reader_object hnodup hbuild (fun m hm => hadmits m (perm.mem_iff.2 hm))
    ((hknown.map Prod.fst).nodup_iff.1 hnames) fun slot _ => ?_
  rw [lookup_eq_of_perm hknown hnames]
  exact .same _

/-- A member of an unknown name is skipped. -/
theorem unknown (h : r.Follows slots) (hnodup : (slots.map Slot.name).Nodup) {q : Quoted}
    {name : String} {d : Doc} (text : q.text = .ok name) (fresh : name ∉ slots.map Slot.name)
    (value : d.IsWellFormed) (hok : r.reader (.object (ms ++ ms') none) = .ok a) :
    r.reader (.object (ms ++ (.string q, d) :: ms') none) = .ok a := by
  obtain ⟨hadmits, hnames, hbuild⟩ := reader_object_ok_iff.1 hok
  obtain ⟨bs, hspells⟩ := value
  have hfield : r.fields.lookup name = none := by
    apply lookup_eq_none
    rwa [Slot.names_of_fits h.fields]
  have hknown : r.known (ms ++ (.string q, d) :: ms') = r.known (ms ++ ms') := by
    rw [known_append, known_cons_of_unknown (m := (.string q, d)) text hfield, ← known_append]
  have hnew : r.Admits (.string q, d) :=
    (admits_iff_of_unknown (m := (.string q, d)) text hfield).2 hspells.isPassed
  refine h.reader_object hnodup hbuild ?_ (by rwa [hknown]) fun slot _ => ?_
  · rw [List.forall_mem_append] at hadmits ⊢
    exact ⟨hadmits.1, List.forall_mem_cons.2 ⟨hnew, hadmits.2⟩⟩
  · rw [hknown]
    exact .same _

/-- The names of slots tell them apart. -/
theorem slot_eq (hnodup : (slots.map Slot.name).Nodup) {slot slot' : Slot Outline}
    (hslot : slot ∈ slots) (hslot' : slot' ∈ slots) (hname : slot'.name = slot.name) :
    slot' = slot :=
  List.inj_on_of_nodup_map hnodup hslot' hslot hname

/-- A field that is not there may be `null`, if it is nullable. -/
theorem null (h : r.Follows slots) (hnodup : (slots.map Slot.name).Nodup) {q : Quoted}
    (mem : slot ∈ slots) (nullable : slot.nullable = true) (text : q.text = .ok slot.name)
    (absent : ∀ m ∈ ms ++ ms', Reader.name m.1 ≠ .ok slot.name)
    (hok : r.reader (.object (ms ++ ms') none) = .ok a) :
    r.reader (.object (ms ++ (.string q, .null) :: ms') none) = .ok a := by
  obtain ⟨hadmits, hnames, hbuild⟩ := reader_object_ok_iff.1 hok
  obtain ⟨check, hfield, hfits⟩ := Slot.lookup_of_fits h.fields hnodup mem
  have hknown : r.known (ms ++ (.string q, .null) :: ms') =
      r.known ms ++ (slot.name, .null) :: r.known ms' := by
    rw [known_append, known_cons_of_field (m := (.string q, .null)) text hfield]
  have hnew : r.Admits (.string q, .null) :=
    (admits_iff_of_field (m := (.string q, .null)) text hfield).2 (hfits.null nullable)
  have hfresh : slot.name ∉ (r.known (ms ++ ms')).map Prod.fst := by
    intro hmem
    obtain ⟨m, hm, hname⟩ := name_of_mem_known hmem
    exact absent m hm hname
  rw [known_append] at hfresh hnames
  refine h.reader_object hnodup hbuild ?_ ?_ fun slot' hslot' => ?_
  · rw [List.forall_mem_append] at hadmits ⊢
    exact ⟨hadmits.1, List.forall_mem_cons.2 ⟨hnew, hadmits.2⟩⟩
  · rw [hknown, (List.perm_middle.map Prod.fst).nodup_iff, List.map_cons, List.nodup_cons]
    exact ⟨hfresh, hnames⟩
  · rw [hknown, known_append, lookup_middle]
    by_cases hname : slot'.name = slot.name
    · -- Nothing was found for this slot before.
      have hnone := lookup_eq_none hfresh
      rw [slot_eq hnodup mem hslot' hname, if_pos rfl, hnone]
      rw [List.lookup_append, Option.or_eq_none_iff] at hnone
      rw [hnone.1]
      exact .null nullable
    · rw [if_neg hname, List.lookup_append]
      exact .same _

/-- A step may be made in the value of a field. -/
theorem member (h : r.Follows slots) (hnodup : (slots.map Slot.name).Nodup) {q : Quoted}
    {d d' : Doc} (mem : slot ∈ slots) (text : q.text = .ok slot.name) (value : slot.value.Step d d')
    (hok : r.reader (.object (ms ++ (.string q, d) :: ms') none) = .ok a) :
    r.reader (.object (ms ++ (.string q, d') :: ms') none) = .ok a := by
  obtain ⟨hadmits, hnames, hbuild⟩ := reader_object_ok_iff.1 hok
  obtain ⟨check, hfield, hfits⟩ := Slot.lookup_of_fits h.fields hnodup mem
  have hknown : ∀ d, r.known (ms ++ (.string q, d) :: ms') =
      r.known ms ++ (slot.name, d) :: r.known ms' := by
    intro d
    rw [known_append, known_cons_of_field (m := (.string q, d)) text hfield]
  have hcheck : ∀ d, r.Admits (.string q, d) ↔ check d = .ok () := fun _ =>
    admits_iff_of_field text hfield
  refine h.reader_object hnodup hbuild ?_ ?_ fun slot' hslot' => ?_
  · rw [List.forall_mem_append, List.forall_mem_cons, hcheck] at hadmits ⊢
    exact ⟨hadmits.1, hfits.step d d' value hadmits.2.1, hadmits.2.2⟩
  · rw [hknown, List.map_append, List.map_cons] at hnames ⊢
    exact hnames
  · rw [hknown, hknown, lookup_middle, lookup_middle]
    cases (r.known ms).lookup slot'.name with
    | some x => exact .same _
    | none =>
        by_cases hname : slot'.name = slot.name
        · rw [slot_eq hnodup mem hslot' hname, if_pos rfl, if_pos rfl]
          exact .step value
        · rw [if_neg hname, if_neg hname]
          exact .same _

/-- A step may be made in an item that stands for a field. -/
theorem entry {slots' : List (Slot Outline)} {ds ds' : List Doc} {d d' : Doc}
    (h : r.Follows (slots ++ slot :: slots'))
    (hnodup : ((slots ++ slot :: slots').map Slot.name).Nodup)
    (length : slots.length = ds.length) (value : slot.value.Step d d')
    (hok : r.reader (.array (ds ++ d :: ds') none) = .ok a) :
    r.reader (.array (ds ++ d' :: ds') none) = .ok a := by
  obtain ⟨hcheck, hbuild⟩ := reader_array_ok_iff.1 hok
  obtain ⟨fs, field, fs', hfields, hlength, hfits⟩ := Slot.exists_of_fits h.fields
  have hmem : slot ∈ slots ++ slot :: slots' := List.mem_append_right slots List.mem_cons_self
  refine reader_array_ok_iff.2 ⟨?_, h.build _ _ _ a (fun slot' hslot' => ?_) hbuild⟩
  · rw [hfields] at hcheck ⊢
    exact checkItems_replace (hlength.trans length) (hfits.step d d' value) hcheck
  · rw [hfields, findItem_middle (hlength.trans length), findItem_middle (hlength.trans length),
      hfits.name]
    cases findItem slot'.name fs ds with
    | some x => exact .same _
    | none =>
        by_cases hname : slot.name = slot'.name
        · rw [slot_eq hnodup hmem hslot' hname.symm, if_pos rfl, if_pos rfl]
          exact .step value
        · rw [if_neg hname, if_neg hname]
          exact .same _

/-- **A record ignores the steps of its slots**, if they have different names. -/
theorem ignores (h : r.Follows slots) (hnodup : (slots.map Slot.name).Nodup) :
    r.reader.Ignores (.record slots) := by
  intro d d' a hstep hok
  cases hstep with
  | permute perm => exact h.permute hnodup perm hok
  | unknown text fresh value => exact h.unknown hnodup text fresh value hok
  | null mem nullable text absent => exact h.null hnodup mem nullable text absent hok
  | member mem text value => exact h.member hnodup mem text value hok
  | entry length value => exact h.entry hnodup length value hok

end Record.Follows

end ScimLookup.Json
