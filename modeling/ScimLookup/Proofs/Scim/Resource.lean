import ScimLookup.Proofs.Json.ReadBack
import ScimLookup.Scim.Resource

/-!
# Resources are read back

Users, groups and lists of them are read back from their JSON form. Each attribute that may be left
out is left out exactly for the value that reading fills in, so every field is read as what was
written (`Json.Record.Reads`), and the fields of a resource one after the other.
-/

set_option autoImplicit false

namespace ScimLookup

open Json

/-! ## Members of JSON objects -/

theorem optionalMember_eq (name : String) (s : Option String) :
    optionalMember name s = (s.map fun s => (name, Value.string s)).toList := by
  cases s <;> rfl

theorem optionalNumber_eq (name : String) (n : Option Int) :
    optionalNumber name n = (n.map fun n => (name, Value.number n)).toList := by
  cases n <;> rfl

theorem textArray_readsBack : (Reader.list Reader.text).ReadsBack textArray :=
  Reader.text_readsBack.list

section Members

variable {name : String}

/-- An optional text. -/
theorem reads_optionalText (s : Option String) :
    (Record.optional name Reader.text).Reads (optionalMember name s) s := by
  rw [optionalMember_eq]
  exact .optional Reader.text_readsBack nofun s

/-- A count. -/
theorem Listing.reads_count (n : Option Int64) :
    (Record.optional name Reader.signed64).Reads (Listing.count name n) n := by
  rw [Listing.count, optionalNumber_eq, Option.map_map]
  exact .optional Reader.signed64_readsBack nofun n

end Members

/-! ## Resources -/

/-- **Entries are read back.** -/
theorem Entry.readsBack : Entry.record.reader.ReadsBack Entry.toJson := by
  refine Record.Reads.readsBack (by decide) fun e => ?_
  -- Only an entry that comes first says so.
  have hprimary : (Record.defaulted "primary" Reader.bool false).Reads
      (if e.primary then [("primary", .bool true)] else []) e.primary := by
    cases e.primary with
    | false => exact .absent rfl
    | true => exact .defaulted Reader.bool_readsBack false true
  exact hprimary.map _
    |>.seq (reads_optionalText e.display)
    |>.seq (.defaulted Reader.text_readsBack "" e.value)

theorem entries_readBack :
    (Reader.list Entry.record.reader).ReadsBack fun es => .array (es.map Entry.toJson) :=
  Entry.readsBack.list

/-- **Metadata are read back.** -/
theorem Meta.readsBack : Meta.record.reader.ReadsBack Meta.toJson := by
  refine Record.Reads.readsBack (by decide) fun m => ?_
  exact (reads_optionalText m.resourceType).map _
    |>.seq (reads_optionalText m.created)
    |>.seq (reads_optionalText m.lastModified)
    |>.seq (reads_optionalText m.location)
    |>.seq (reads_optionalText m.version)

theorem Meta.reads_member (m : Option Meta) :
    (Record.optional "meta" Meta.record.reader).Reads (Meta.member m) m := by
  have hmember : Meta.member m = (m.map fun m => ("meta", m.toJson)).toList := by
    cases m <;> rfl
  rw [hmember]
  exact .optional Meta.readsBack nofun m

/-- **Users are read back.** -/
theorem User.readsBack : User.record.reader.ReadsBack User.toJson := by
  refine Record.Reads.readsBack (by decide) fun u => ?_
  have hfields : User.record.Reads _ u :=
    (Record.Reads.required Reader.text_readsBack u.id).map _
    |>.seq (reads_optionalText u.externalId)
    |>.seq (.defaulted textArray_readsBack [] u.schemas)
    |>.seq (.defaulted Reader.text_readsBack "" u.userName)
    |>.seq (reads_optionalText u.displayName)
    |>.seq (.defaulted Reader.bool_readsBack false u.active)
    |>.seq (.defaulted entries_readBack [] u.emails)
    |>.seq (.defaulted entries_readBack [] u.groups)
    |>.seq (reads_optionalText u.userType)
    |>.seq (Meta.reads_member u.metadata)
  simpa only [List.append_assoc, List.cons_append, List.nil_append] using hfields

/-- **Groups are read back.** -/
theorem Group.readsBack : Group.record.reader.ReadsBack Group.toJson := by
  refine Record.Reads.readsBack (by decide) fun g => ?_
  -- A group without members does not mention them.
  have hmembers : (Record.defaulted "members" (Reader.list Entry.record.reader) []).Reads
      (if g.members.isEmpty then [] else [("members", .array (g.members.map Entry.toJson))])
      g.members := by
    cases g.members with
    | nil => exact .absent rfl
    | cons e es => exact .defaulted entries_readBack [] (e :: es)
  exact (Record.Reads.required Reader.text_readsBack g.id).map _
    |>.seq (reads_optionalText g.externalId)
    |>.seq (.defaulted textArray_readsBack [] g.schemas)
    |>.seq (reads_optionalText g.displayName)
    |>.seq hmembers
    |>.seq (Meta.reads_member g.metadata)

/-- **Lists are read back**, if their resources are. -/
theorem Listing.readsBack {α : Type} {r : Reader α} {item : α → Value} (h : r.ReadsBack item) :
    (Listing.record r).reader.ReadsBack (Listing.toJson item) := by
  have hnames : ["schemas", "totalResults", "startIndex", "itemsPerPage", "nextCursor",
      "Resources"].Nodup := by
    decide
  refine Record.Reads.readsBack hnames fun l => ?_
  exact (Record.Reads.defaulted textArray_readsBack [] l.schemas).map _
    |>.seq (Listing.reads_count l.totalResults)
    |>.seq (Listing.reads_count l.startIndex)
    |>.seq (Listing.reads_count l.itemsPerPage)
    |>.seq (reads_optionalText l.nextCursor)
    |>.seq (.defaulted h.list [] l.resources)

end ScimLookup
