import ScimLookup.Proofs.Json.Members
import ScimLookup.Scim.Resource

/-!
# Lists, item by item

A list of resources can be read without looking into its items (`Reader.doc`). The main result
(`Listing.reader_of_items`) says that this and reading the items one by one is as good as reading
the whole list at once: what is a resource as a document of its own is the same resource in a list.
-/

set_option autoImplicit false

namespace ScimLookup

open Json

namespace Json.Reader

variable {α : Type} {r : Reader α} {d : Doc} {docs : List Doc} {xs : List α}

/-- Any document, as it is. -/
def doc : Reader Doc := .ok

theorem mapM_doc (docs : List Doc) : docs.mapM doc = .ok docs := by
  induction docs with
  | nil => rfl
  | cons d docs ih =>
      rw [List.mapM_cons, ih]
      rfl

/-- A list of any documents is an array that is closed. -/
theorem list_doc_ok (h : Reader.list doc d = .ok docs) : d = .array docs none := by
  cases d with
  | array items fault =>
      obtain ⟨ys, hitems, h⟩ := ok_of_bind h
      obtain ⟨hfault, h⟩ := bind_unit_ok_iff.1 h
      rw [mapM_doc] at hitems
      cases hitems
      cases h
      cases fault with
      | none => rfl
      | some f => cases hfault
  | _ => cases h

theorem list_of_items (h : docs.mapM r = .ok xs) : Reader.list r (.array docs none) = .ok xs := by
  show (docs.mapM r >>= fun ys => _) = _
  rw [h]
  rfl

end Json.Reader

namespace Listing

variable {α : Type} {r : Reader α} {d : Doc} {l : Listing Doc} {xs : List α}

/-- The same list with other items. -/
def withItems (l : Listing Doc) (xs : List α) : Listing α :=
  ⟨l.schemas, l.totalResults, l.startIndex, l.itemsPerPage, l.nextCursor, xs⟩

/-- The fields of a list before its items. -/
def headFields : List (String × (Doc → Except Fault Unit)) :=
  [("schemas", (Reader.list Reader.text).checked),
    ("totalResults", Reader.signed64.optional.checked),
    ("startIndex", Reader.signed64.optional.checked),
    ("itemsPerPage", Reader.signed64.optional.checked),
    ("nextCursor", Reader.text.optional.checked)]

theorem fields_eq (r : Reader α) :
    (record r).fields = headFields ++ [("Resources", (Reader.list r).checked)] := rfl

/-- What stands under the name of the items is read as a list if its items are read. -/
theorem items_of_items {shape : Shape} {find : String → Option Doc} {docs : List Doc}
    (h : (Record.defaulted "Resources" (Reader.list Reader.doc) []).build shape find = .ok docs)
    (hitems : docs.mapM r = .ok xs) :
    (∀ d, find "Resources" = some d → (Reader.list r).checked d = .ok ()) ∧
      (Record.defaulted "Resources" (Reader.list r) []).build shape find = .ok xs := by
  simp only [Record.defaulted, Record.field] at h ⊢
  cases hfind : find "Resources" with
  | none =>
      rw [hfind] at h
      cases h
      cases hitems
      exact ⟨fun d hd => (nomatch hd), rfl⟩
  | some d =>
      rw [hfind] at h
      obtain rfl := Reader.list_doc_ok h
      have hread := Reader.list_of_items hitems
      exact ⟨fun d hd => by cases hd; exact Reader.checked_ok hread, hread⟩

/-- A list is built from its items, and the rest of it without them. -/
theorem build_of_items {shape : Shape} {find : String → Option Doc}
    (h : (record Reader.doc).build shape find = .ok l) (hitems : l.resources.mapM r = .ok xs) :
    (∀ d, find "Resources" = some d → (Reader.list r).checked d = .ok ()) ∧
      (record r).build shape find = .ok (l.withItems xs) := by
  -- The fields are taken off from the last one on, and put back with the items read.
  obtain ⟨f₁, docs, h₁, hdocs, rfl⟩ := Record.seq_build_ok h
  obtain ⟨f₂, nextCursor, h₂, hnext, rfl⟩ := Record.seq_build_ok h₁
  obtain ⟨f₃, itemsPerPage, h₃, hperPage, rfl⟩ := Record.seq_build_ok h₂
  obtain ⟨f₄, startIndex, h₄, hstart, rfl⟩ := Record.seq_build_ok h₃
  obtain ⟨f₅, totalResults, h₅, htotal, rfl⟩ := Record.seq_build_ok h₄
  obtain ⟨f₆, schemas, h₆, hschemas, rfl⟩ := Record.seq_build_ok h₅
  cases h₆
  obtain ⟨hlast, hread⟩ := items_of_items hdocs hitems
  refine ⟨hlast, ?_⟩
  have hhead : (Record.pure (Listing.mk (α := α))).build shape find = .ok Listing.mk := rfl
  exact Record.seq_build_of_ok (Record.seq_build_of_ok (Record.seq_build_of_ok
    (Record.seq_build_of_ok (Record.seq_build_of_ok (Record.seq_build_of_ok hhead hschemas) htotal)
      hstart) hperPage) hnext) hread

/-- **A list is read item by item.** -/
theorem reader_of_items (h : (record Reader.doc).reader d = .ok l)
    (hitems : l.resources.mapM r = .ok xs) : (record r).reader d = .ok (l.withItems xs) :=
  Record.reader_of_last (by decide) (fields_eq Reader.doc) (fields_eq r)
    (fun _ _ hbuild => build_of_items hbuild hitems) h

end Listing

end ScimLookup
