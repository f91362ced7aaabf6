import ScimLookup.Command.Inquiry
import ScimLookup.Command.Lookup
import ScimLookup.Proofs.Host.Message
import ScimLookup.Proofs.Scim.ListRequest

/-!
# What is written can be read

Each resource, each search and each message of the host has a text in compact form and one on lines,
and the second is what the commands print where JSON is wanted. All of them are read back as what
they were written from (`texts_roundTrip`), whatever the texts, the numbers and the lists in it.
-/

set_option autoImplicit false

namespace ScimLookup.Command

open Json

/-- The texts of a type are read back. -/
structure RoundTrips {α : Type} (r : Reader α) (write : α → Value) : Prop where
  compact : ∀ a, r.ofBytes (Utf8.ofString (write a).compact) = .ok a
  pretty : ∀ a, r.ofBytes (Utf8.ofString (write a).pretty) = .ok a
  /-- What a lookup prints where JSON is wanted is read back. -/
  printed : ∀ (l : Lookup) (plain : α → String) (a : α),
    r.ofBytes (Utf8.ofString (Lookup.output { l with json := true } write plain a)) = .ok a

theorem RoundTrips.of_readsBack {α : Type} {r : Reader α} {write : α → Value}
    (h : r.ReadsBack write) : RoundTrips r write where
  compact := h.ofBytes_compact
  pretty := h.ofBytes_pretty
  printed := fun _ _ => h.ofBytes_line

/-- **Reading undoes writing for the whole data model**: for resources and their parts, for lists of
them, for searches, and for the messages of the host and what these are about. What an inquiry
prints where JSON is wanted is read back as well. -/
theorem texts_roundTrip :
    RoundTrips User.record.reader User.toJson ∧
    RoundTrips Group.record.reader Group.toJson ∧
    RoundTrips (Listing.record User.record.reader).reader (Listing.toJson User.toJson) ∧
    RoundTrips (Listing.record Group.record.reader).reader (Listing.toJson Group.toJson) ∧
    RoundTrips Meta.record.reader Meta.toJson ∧
    RoundTrips Entry.record.reader Entry.toJson ∧
    RoundTrips SearchRequest.record.reader SearchRequest.toJson ∧
    RoundTrips HostGroup.record.reader HostGroup.toJson ∧
    RoundTrips HostUser.record.reader HostUser.toJson ∧
    RoundTrips ConfigureRequest.record.reader ConfigureRequest.toJson ∧
    RoundTrips ConfigureResponse.record.reader ConfigureResponse.toJson ∧
    RoundTrips GetGroupRequest.record.reader GetGroupRequest.toJson ∧
    RoundTrips GetGroupResponse.record.reader GetGroupResponse.toJson ∧
    RoundTrips GetAllGroupsRequest.record.reader GetAllGroupsRequest.toJson ∧
    RoundTrips GetAllGroupsResponse.record.reader GetAllGroupsResponse.toJson ∧
    RoundTrips GetUsersForGroupRequest.record.reader GetUsersForGroupRequest.toJson ∧
    RoundTrips GetUsersForGroupResponse.record.reader GetUsersForGroupResponse.toJson ∧
    RoundTrips GetGroupsForUserRequest.record.reader GetGroupsForUserRequest.toJson ∧
    RoundTrips GetGroupsForUserResponse.record.reader GetGroupsForUserResponse.toJson ∧
    ∀ i : Inquiry,
      (∀ g, HostGroup.record.reader.ofBytes
        (Utf8.ofString (Inquiry.output { i with json := true } (.group g))) = .ok g) ∧
      (∀ gs, (Reader.list HostGroup.record.reader).ofBytes
        (Utf8.ofString (Inquiry.output { i with json := true } (.groups gs))) = .ok gs) ∧
      (∀ us, (Reader.list HostUser.record.reader).ofBytes
        (Utf8.ofString (Inquiry.output { i with json := true } (.users us))) = .ok us) :=
  ⟨.of_readsBack User.readsBack, .of_readsBack Group.readsBack,
    .of_readsBack (Listing.readsBack User.readsBack),
    .of_readsBack (Listing.readsBack Group.readsBack), .of_readsBack Meta.readsBack,
    .of_readsBack Entry.readsBack, .of_readsBack SearchRequest.record_readsBack,
    .of_readsBack HostGroup.readsBack, .of_readsBack HostUser.readsBack,
    .of_readsBack ConfigureRequest.readsBack, .of_readsBack ConfigureResponse.readsBack,
    .of_readsBack GetGroupRequest.readsBack, .of_readsBack GetGroupResponse.readsBack,
    .of_readsBack GetAllGroupsRequest.readsBack, .of_readsBack GetAllGroupsResponse.readsBack,
    .of_readsBack GetUsersForGroupRequest.readsBack,
    .of_readsBack GetUsersForGroupResponse.readsBack,
    .of_readsBack GetGroupsForUserRequest.readsBack,
    .of_readsBack GetGroupsForUserResponse.readsBack, fun _ =>
      ⟨HostGroup.readsBack.ofBytes_line, hostGroups_readBack.ofBytes_line,
        hostUsers_readBack.ofBytes_line⟩⟩

end ScimLookup.Command
