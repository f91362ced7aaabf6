import ScimLookup.Proofs.Scim.Resource
import ScimLookup.Proofs.Url.Form
import ScimLookup.Scim.ListRequest

/-!
# The two ways to ask for a list

A query and a search for the same list say the same (`ListRequest.query_says_search`): the form of
the query and the JSON body of the search are read as the same count, the same cursor and the same
filter. Neither escaping loses anything, so this holds for every text. Without a filter there is a
query that has none, and no search.
-/

set_option autoImplicit false

namespace ScimLookup

open Json

/-! ## Reading a search -/

/-- **Search criteria are read back.** -/
theorem SearchRequest.record_readsBack : record.reader.ReadsBack toJson := by
  refine Record.Reads.readsBack (by decide) fun r => ?_
  rw [optionalMember_eq, optionalNumber_eq, optionalMember_eq, Option.map_map]
  exact (Record.Reads.required textArray_readsBack r.schemas).map _
    |>.seq (.nullable Reader.text_readsBack nofun r.filter)
    |>.seq (.nullable Reader.word32_readsBack nofun r.count)
    |>.seq (.nullable Reader.text_readsBack nofun r.cursor)

/-! ## Reading a query -/

/-- What a list request asks for: how many resources, where to start, and the filter. -/
structure Criteria where
  count : Option UInt32
  cursor : Option String
  filter : Option String
deriving DecidableEq, Repr

namespace Criteria

/-- The names that may stand in a query. -/
def names : List String := ["count", "cursor", "filter"]

/-- A count in decimal digits. -/
def count? (s : String) : Option UInt32 := do
  let n ← Decimal.ofDigits? s.toList
  if n ≤ 0xFFFFFFFF then some (.ofNat n) else none

/-- The criteria that the form of a query holds. There are none if another name stands in it, a name
comes twice, or the count is no number of 32 bits. -/
def ofQuery? (query : String) : Option Criteria :=
  let pairs := Form.decode query.toList
  let given := pairs.map Prod.fst
  if given.Nodup ∧ ∀ name ∈ given, name ∈ names then
    let rest : Criteria := ⟨none, pairs.lookup "cursor", pairs.lookup "filter"⟩
    match pairs.lookup "count" with
    | none => some rest
    | some s => (count? s).map fun n => { rest with count := some n }
  else none

theorem count?_text (n : UInt32) : count? (Decimal.text n.toNat) = some n := by
  have hdigits : Decimal.ofDigits? (Decimal.text n.toNat).toList = some n.toNat := by
    rw [Decimal.text, String.toList_ofList]
    exact Decimal.ofDigits?_digits n.toNat
  have hn : n.toNat ≤ 0xFFFFFFFF := Nat.le_of_lt_succ n.toNat_lt
  rw [count?, hdigits]
  show (if n.toNat ≤ 0xFFFFFFFF then some (UInt32.ofNat n.toNat) else none) = some n
  rw [if_pos hn, UInt32.ofNat_toNat]

/-- The names of the pairs come in one order, and each once at most. -/
theorem names_pairs (filter : Filter) (page : Page) :
    ((ListRequest.pairs filter page).map Prod.fst).Sublist names := by
  have hone : ∀ (name : String) (o : Option String),
      ((o.map fun s => (name, s)).toList.map Prod.fst).Sublist [name] := by
    intro name o
    cases o with
    | none => exact List.nil_sublist [name]
    | some s => exact List.Sublist.refl [name]
  have hcount := hone "count" (page.count.map fun n => Decimal.text n.toNat)
  have hcursor := hone "cursor" page.cursor
  have hfilter : ((if filter.isAbsent then [] else [("filter", filter.text)]).map Prod.fst).Sublist
      ["filter"] := by
    split
    · exact List.nil_sublist _
    · exact List.Sublist.refl _
  rw [Option.map_map] at hcount
  rw [ListRequest.pairs, List.map_append, List.map_append]
  exact (hcount.append hcursor).append hfilter

/-- What is found under the names. -/
theorem lookup_pairs (filter : Filter) (page : Page) :
    (ListRequest.pairs filter page).lookup "count" =
        page.count.map (fun n => Decimal.text n.toNat) ∧
      (ListRequest.pairs filter page).lookup "cursor" = page.cursor ∧
      (ListRequest.pairs filter page).lookup "filter" =
        if filter.isAbsent then none else some filter.text := by
  obtain ⟨cursor, count⟩ := page
  rw [ListRequest.pairs]
  refine ⟨?_, ?_, ?_⟩
  · cases filter.isAbsent <;> cases count <;> cases cursor <;> rfl
  · cases filter.isAbsent <;> cases count <;> cases cursor <;> rfl
  · cases filter.isAbsent <;> cases count <;> cases cursor <;> rfl

/-- **A query is read back.** -/
theorem ofQuery?_pairs (filter : Filter) (page : Page) :
    ofQuery? (Form.render (ListRequest.pairs filter page)) =
      some ⟨page.count, page.cursor, if filter.isAbsent then none else some filter.text⟩ := by
  have hsub := names_pairs filter page
  have hnodup : names.Nodup := by decide
  have hvalid : ((ListRequest.pairs filter page).map Prod.fst).Nodup ∧
      ∀ name ∈ (ListRequest.pairs filter page).map Prod.fst, name ∈ names :=
    ⟨hnodup.sublist hsub, fun name hname => hsub.subset hname⟩
  rw [ofQuery?, Form.decode_render]
  obtain ⟨hcount, hcursor, hfilter⟩ := lookup_pairs filter page
  simp only [if_pos hvalid, hcount, hcursor, hfilter]
  cases page.count with
  | none => rfl
  | some n =>
      simp only [Option.map_some, count?_text]

end Criteria

namespace ListRequest

/-- **The query and the search for a list say the same.** -/
theorem query_says_search (page : Page) :
    (∀ filter : Filter, filter ≠ .absent →
      ∃ query search said,
        build .get filter page = .ok query ∧ query.method = .get ∧
        build .post filter page = .ok search ∧ search.method = .post ∧
        SearchRequest.record.reader.ofBytes (Utf8.ofString search.payload) = .ok said ∧
        Criteria.ofQuery? query.payload = some ⟨said.count, said.cursor, said.filter⟩ ∧
        said = ⟨[SearchRequest.schema], some filter.text, page.count, page.cursor⟩) ∧
    build .post .absent page = .error .noFilter ∧
    ∃ query, build .get .absent page = .ok query ∧ query.method = .get ∧
      Criteria.ofQuery? query.payload = some ⟨page.count, page.cursor, none⟩ := by
  refine ⟨?_, rfl, ?_⟩
  · intro filter hfilter
    have hpresent : filter.isAbsent = false := by
      cases filter with
      | absent => exact absurd rfl hfilter
      | compare path op value => rfl
      | all filters => rfl
      | any filters => rfl
      | deny filter => rfl
    have hquery := Criteria.ofQuery?_pairs filter page
    rw [hpresent] at hquery
    -- Both forms are read back, so both say what the search was made from.
    let said : SearchRequest := ⟨[SearchRequest.schema], some filter.text, page.count, page.cursor⟩
    have hsearch : build .post filter page = .ok (.search said) := by
      rw [build, build?, criteria?, hpresent]
      rfl
    exact ⟨.query (pairs filter page), .search said, said, rfl, rfl, hsearch, rfl,
      SearchRequest.record_readsBack.ofBytes_compact said, hquery, rfl⟩
  · exact ⟨.query (pairs .absent page), rfl, rfl, Criteria.ofQuery?_pairs .absent page⟩

end ListRequest

end ScimLookup
