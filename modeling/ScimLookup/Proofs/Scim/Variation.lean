import ScimLookup.Proofs.Json.Variation
import ScimLookup.Proofs.Scim.Resource

/-!
# Variations of resources

Reading a resource takes no notice of what is not modelled: the order of members, members of unknown
names with values of any kind, and optional members that are `null`. This holds of a user, of a group
and of lists of them, and of every modelled object inside (`resources_tolerate`). The name of an unknown
member must be a text all the same, and half of a pair of units is none (`User.refused_surrogate`).
-/

set_option autoImplicit false

namespace ScimLookup

open Json

/-! ## Entries -/

namespace Entry

/-- The modelled members of an entry. -/
def slots : List (Slot Outline) :=
  [⟨"primary", false, .other⟩, ⟨"display", true, .other⟩, ⟨"value", false, .other⟩]

/-- An entry. -/
def outline : Outline :=
  .record slots

theorem ignores : Entry.record.reader.Ignores Entry.outline := by
  have hfields : Entry.record.Follows Entry.slots :=
    (Record.Follows.defaulted (.other _) false).map _
    |>.seq (.optional (.other _))
    |>.seq (.defaulted (.other _) "")
  exact hfields.ignores (by decide)

end Entry

/-! ## Metadata -/

namespace Meta

/-- The modelled members of metadata. -/
def slots : List (Slot Outline) :=
  [⟨"resourceType", true, .other⟩, ⟨"created", true, .other⟩, ⟨"lastModified", true, .other⟩,
    ⟨"location", true, .other⟩, ⟨"version", true, .other⟩]

/-- Metadata. -/
def outline : Outline :=
  .record slots

theorem ignores : Meta.record.reader.Ignores Meta.outline := by
  have hfields : Meta.record.Follows Meta.slots :=
    (Record.Follows.optional (.other _)).map _
    |>.seq (.optional (.other _))
    |>.seq (.optional (.other _))
    |>.seq (.optional (.other _))
    |>.seq (.optional (.other _))
  exact hfields.ignores (by decide)

end Meta

/-! ## Users -/

namespace User

/-- The modelled members of a user. -/
def slots : List (Slot Outline) :=
  [⟨"id", false, .other⟩, ⟨"externalId", true, .other⟩, ⟨"schemas", false, .other⟩,
    ⟨"userName", false, .other⟩, ⟨"displayName", true, .other⟩, ⟨"active", false, .other⟩,
    ⟨"emails", false, .list Entry.outline⟩, ⟨"groups", false, .list Entry.outline⟩,
    ⟨"userType", true, .other⟩, ⟨"meta", true, Meta.outline⟩]

/-- A user, with the entries and the metadata inside. -/
def outline : Outline :=
  .record slots

theorem ignores : User.record.reader.Ignores User.outline := by
  have hfields : User.record.Follows User.slots :=
    (Record.Follows.required (.other _)).map _
    |>.seq (.optional (.other _))
    |>.seq (.defaulted (.other _) [])
    |>.seq (.defaulted (.other _) "")
    |>.seq (.optional (.other _))
    |>.seq (.defaulted (.other _) false)
    |>.seq (.defaulted Entry.ignores.list [])
    |>.seq (.defaulted Entry.ignores.list [])
    |>.seq (.optional (.other _))
    |>.seq (.optional Meta.ignores)
  exact hfields.ignores (by decide)

end User

/-! ## Groups -/

namespace Group

/-- The modelled members of a group. -/
def slots : List (Slot Outline) :=
  [⟨"id", false, .other⟩, ⟨"externalId", true, .other⟩, ⟨"schemas", false, .other⟩,
    ⟨"displayName", true, .other⟩, ⟨"members", false, .list Entry.outline⟩,
    ⟨"meta", true, Meta.outline⟩]

/-- A group, with the entries and the metadata inside. -/
def outline : Outline :=
  .record slots

theorem ignores : Group.record.reader.Ignores Group.outline := by
  have hfields : Group.record.Follows Group.slots :=
    (Record.Follows.required (.other _)).map _
    |>.seq (.optional (.other _))
    |>.seq (.defaulted (.other _) [])
    |>.seq (.optional (.other _))
    |>.seq (.defaulted Entry.ignores.list [])
    |>.seq (.optional Meta.ignores)
  exact hfields.ignores (by decide)

end Group

/-! ## Lists of resources -/

namespace Listing

/-- The modelled members of a list. -/
def slots (item : Outline) : List (Slot Outline) :=
  [⟨"schemas", false, .other⟩, ⟨"totalResults", true, .other⟩, ⟨"startIndex", true, .other⟩,
    ⟨"itemsPerPage", true, .other⟩, ⟨"nextCursor", true, .other⟩, ⟨"Resources", false, .list item⟩]

/-- A list, with the resources inside. -/
def outline (item : Outline) : Outline :=
  .record (slots item)

theorem ignores {α : Type} {r : Reader α} {item : Outline} (h : r.Ignores item) :
    (Listing.record r).reader.Ignores (Listing.outline item) := by
  have hfields : (Listing.record r).Follows (slots item) :=
    (Record.Follows.defaulted (.other _) []).map _
    |>.seq (.optional (.other _))
    |>.seq (.optional (.other _))
    |>.seq (.optional (.other _))
    |>.seq (.optional (.other _))
    |>.seq (.defaulted h.list [])
  have hnames : ((slots item).map Slot.name).Nodup := by
    show ["schemas", "totalResults", "startIndex", "itemsPerPage", "nextCursor", "Resources"].Nodup
    decide
  exact hfields.ignores hnames

end Listing

/-! ## Resources -/

/-- **Reading a resource tolerates what is not modelled**, in the resource and in every modelled object
inside. -/
theorem resources_tolerate :
    User.record.reader.Tolerates User.outline User.toJson ∧
    Group.record.reader.Tolerates Group.outline Group.toJson ∧
    (Listing.record User.record.reader).reader.Tolerates (Listing.outline User.outline)
      (Listing.toJson User.toJson) ∧
    (Listing.record Group.record.reader).reader.Tolerates (Listing.outline Group.outline)
      (Listing.toJson Group.toJson) :=
  ⟨User.ignores.tolerates User.readsBack, Group.ignores.tolerates Group.readsBack,
    (Listing.ignores User.ignores).tolerates (Listing.readsBack User.readsBack),
    (Listing.ignores Group.ignores).tolerates (Listing.readsBack Group.readsBack)⟩

/-- A user is read as before when its members come in another order, a member of an unknown name comes
with an array, and the label of an address inside is `null`. -/
theorem resources_tolerate_extension :
    User.record.reader.ofBytes (Utf8.encode (Value.written (.object
        [("id", .string "a"), ("emails", .array [.object [("value", .string "b")]])]))) =
      .ok ⟨"a", none, [], "", none, false, [⟨false, none, "b"⟩], [], none, none⟩ ∧
    User.record.reader.ofBytes (Utf8.encode (Value.written (.object
        [("emails", .array [.object [("display", .null), ("value", .string "b")]]),
          ("urn:x", .array [.object [("id", .null)], .number 1]), ("id", .string "a")]))) =
      .ok ⟨"a", none, [], "", none, false, [⟨false, none, "b"⟩], [], none, none⟩ := by
  have hbefore : User.record.reader.ofBytes (Utf8.encode (Value.written (.object
        [("id", .string "a"), ("emails", .array [.object [("value", .string "b")]])]))) =
      .ok ⟨"a", none, [], "", none, false, [⟨false, none, "b"⟩], [], none, none⟩ := by
    rw [Reader.ofBytes_of_spells _ (Value.spells_written _)]
    rfl
  have hentry : Entry.outline.Step (.object ([] ++ Doc.ofMembers [("value", .string "b")]) none)
      (.object ([] ++ Doc.ofMember ("display", .null) :: Doc.ofMembers [("value", .string "b")]) none) :=
    .null (List.mem_cons_of_mem _ List.mem_cons_self) rfl rfl (by decide)
  have hemails : (Outline.list Entry.outline).Step
      (.array ([] ++ Doc.ofValue (.object [("value", .string "b")]) :: []) none)
      (.array ([] ++ Doc.ofValue (.object [("display", .null), ("value", .string "b")]) :: []) none) :=
    .item hentry
  have hinside : User.outline.Step
      (.object (Doc.ofMembers [("id", .string "a")] ++
        Doc.ofMember ("emails", .array [.object [("value", .string "b")]]) :: []) none)
      (.object (Doc.ofMembers [("id", .string "a")] ++
        Doc.ofMember ("emails", .array [.object [("display", .null), ("value", .string "b")]]) :: [])
        none) := by
    have hslot : ⟨"emails", false, .list Entry.outline⟩ ∈ User.slots := by
      simp [User.slots]
    exact .member hslot rfl hemails
  have hunknown : User.outline.Step
      (.object (Doc.ofMembers [("id", .string "a")] ++ Doc.ofMembers
        [("emails", .array [.object [("display", .null), ("value", .string "b")]])]) none)
      (.object (Doc.ofMembers [("id", .string "a")] ++
        Doc.ofMember ("urn:x", .array [.object [("id", .null)], .number 1]) :: Doc.ofMembers
        [("emails", .array [.object [("display", .null), ("value", .string "b")]])]) none) :=
    .unknown rfl (by decide) ⟨_, Value.spells_written (.array [.object [("id", .null)], .number 1])⟩
  have hpermuted : User.outline.Step
      (.object (Doc.ofMembers [("id", .string "a"),
        ("urn:x", .array [.object [("id", .null)], .number 1]),
        ("emails", .array [.object [("display", .null), ("value", .string "b")]])]) none)
      (.object (Doc.ofMembers
        [("emails", .array [.object [("display", .null), ("value", .string "b")]]),
          ("urn:x", .array [.object [("id", .null)], .number 1]), ("id", .string "a")]) none) :=
    .permute (List.reverse_perm _).symm
  refine ⟨hbefore, resources_tolerate.1.varied _ _ _ ⟨_, _, Value.spells_written _, Value.spells_written _, ?_⟩
    hbefore⟩
  exact ((Relation.ReflTransGen.single hinside).tail hunknown).tail hpermuted

/-- **The name of an unknown member must be a text.** The second text is the first with one more member,
whose name is half of a pair of units and so the name of no field, and whose value is `null`. -/
theorem User.refused_surrogate :
    Spells (.doc (Doc.ofValue (.object [("id", .string "a")])))
      (Utf8.ofString "\x7b\"id\":\"a\"\x7d") ∧
    Spells (.doc (.object [(.string ⟨pieceText none [.unit 0xD800], none⟩, .null),
        Doc.ofMember ("id", .string "a")] none))
      (Utf8.ofString "\x7b\"\\ud800\":null,\"id\":\"a\"\x7d") ∧
    (∀ name, pieceText none [.unit 0xD800] ≠ .ok name) ∧
    User.record.reader.ofBytes (Utf8.ofString "\x7b\"id\":\"a\"\x7d") =
      .ok ⟨"a", none, [], "", none, false, [], [], none, none⟩ ∧
    User.record.reader.ofBytes (Utf8.ofString "\x7b\"\\ud800\":null,\"id\":\"a\"\x7d") =
      .error .malformed := by
  have hplain : Spells (.doc (Doc.ofValue (.object [("id", .string "a")])))
      (Utf8.ofString "\x7b\"id\":\"a\"\x7d") := by
    have hbytes : Utf8.ofString "\x7b\"id\":\"a\"\x7d" =
        Utf8.encode (Value.object [("id", .string "a")]).written := by
      decide
    rw [hbytes]
    exact Value.spells_written _
  have hname : SpellsPieces [.unit 0xD800] [0x5C, 0x75, 0x64, 0x38, 0x30, 0x30] :=
    .unit (by decide) .nil
  have hextended : Spells (.doc (.object [(.string ⟨pieceText none [.unit 0xD800], none⟩, .null),
        Doc.ofMember ("id", .string "a")] none))
      (Utf8.ofString "\x7b\"\\ud800\":null,\"id\":\"a\"\x7d") := by
    have hbytes : Utf8.ofString "\x7b\"\\ud800\":null,\"id\":\"a\"\x7d" =
        [0x7B, 0x22, 0x5C, 0x75, 0x64, 0x38, 0x30, 0x30, 0x22, 0x3A, 0x6E, 0x75, 0x6C, 0x6C, 0x2C] ++
          (Utf8.encode (writeString "id") ++ 0x3A :: Utf8.encode (writeString "a")) ++ [0x7D] := by
      decide
    rw [hbytes]
    exact .object (.moreMembers (.string hname) .null
      (.lastMember (Spells.ofString "id") (Spells.ofString "a")))
  refine ⟨hplain, hextended, nofun, ?_, ?_⟩
  · rw [Reader.ofBytes_of_spells _ hplain]
    rfl
  · rw [Reader.ofBytes_of_spells _ hextended]
    rfl

end ScimLookup
