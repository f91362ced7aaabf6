import ScimLookup.Proofs.Scim.ResourceAddress
import ScimLookup.Proofs.Url.Query

/-!
# The query of a list request

What a list request says in its query passes three stages: the form is written, put behind the
address of the collection and read again as a part of it, and the id of a client that proves itself
by a certificate is put behind it. Below a base without question mark and hash none of them disturbs
another (`query_listRequest`), whatever characters the cursor, the filter and the id hold. So the
query that is sent is read as the pairs that it was made from (`query_says_pairs`).
-/

set_option autoImplicit false

namespace ScimLookup

namespace Url

/-- The query of the address says these pairs: it is read as them, and for none of them there is no
query. -/
def SaysPairs (u : Url) (ps : List (String × String)) : Prop :=
  match u.query with
  | none => ps = []
  | some text => ps ≠ [] ∧ Form.decode text.toList = ps

theorem saysPairs_of_query {u : Url} {ps : List (String × String)} (h : u.query = pairsQuery ps) :
    u.SaysPairs ps := by
  rw [SaysPairs, h]
  cases ps with
  | nil => rfl
  | cons p ps => exact ⟨List.cons_ne_nil p ps, Form.decode_render (p :: ps)⟩

end Url

namespace Client

open Exchange Json

variable {c : Client} {collection : Collection} {listMethod : ListMethod} {filter : Filter}
  {page : Page}

/-! ## Pairs -/

/-- What a list request says in its query: how many resources are wanted, where an earlier page
ended and the filter, as far as they are given. A search says nothing there. -/
def requestPairs (filter : Filter) (page : Page) : ListMethod → List (String × String)
  | .get =>
    (page.count.map fun n => ("count", Decimal.text n.toNat)).toList ++
      (page.cursor.map fun cursor => ("cursor", cursor)).toList ++
      match filter with
      | .absent => []
      | filter => [("filter", filter.text)]
  | .post => []

/-- What the credentials say in a query: the id of a client that proves itself by a certificate. -/
def credentialPairs : Credentials → List (String × String)
  | .mtls id _ => [("client_id", id)]
  | _ => []

/-- The pairs in the query of a list request of the client. -/
def listPairs (c : Client) (method : ListMethod) (filter : Filter) (page : Page) :
    List (String × String) :=
  requestPairs filter page method ++ credentialPairs c.credentials

theorem requestPairs_get (filter : Filter) (page : Page) :
    requestPairs filter page .get = ListRequest.pairs filter page := by
  cases filter <;> rfl

/-- The credentials bring their pair to the end of a form. -/
theorem query_addressed {u : Url} {ps : List (String × String)} (hu : u.query = Url.pairsQuery ps)
    (credentials : Credentials) :
    (addressed u credentials).query = Url.pairsQuery (ps ++ credentialPairs credentials) := by
  cases credentials with
  | basic id secret => exact hu.trans (congrArg Url.pairsQuery (List.append_nil ps).symm)
  | mtls id certificate => exact Url.query_addPair hu ("client_id", id)
  | oauth2 id secret endpoint scopes =>
      exact hu.trans (congrArg Url.pairsQuery (List.append_nil ps).symm)

/-! ## Addresses -/

section Base

variable (hbase : ∀ x ∈ Url.front c.baseUrl.toList, Url.endsPath x = false)

include hbase

/-- What is put behind a collection brings its own query. -/
theorem query_collection {s : String} {u : Url}
    (hu : Url.parse? (c.baseUrl ++ collection.path ++ "/" ++ s) = some u)
    (hweb : u.isWeb = true) :
    u.query = Url.queryOf true ((Url.back s.toList).dropWhile (!Url.endsPath ·)) := by
  obtain ⟨-, hchars, -⟩ := Url.isSegment_iff.1 collection.segment_facts.2.1
  rw [collection.address_eq] at hu
  rw [Url.query_below hbase hu hweb, collection.back_address,
    Url.dropWhile_append_of_none fun x hx => (hchars x hx).2.2]
  rfl

/-- The address of a list request has the form of its pairs for its query. -/
theorem query_listParts? {method : Method} {address body : String} {u : Url}
    (hparts : Call.listParts? c collection listMethod filter page = some (method, address, body))
    (hu : Url.parse? address = some u) (hweb : u.isWeb = true) :
    u.query = Url.pairsQuery (requestPairs filter page listMethod) := by
  obtain ⟨request, hrequest, hparts⟩ := Option.map_eq_some_iff.1 hparts
  cases listMethod with
  | get =>
      cases hrequest
      rw [requestPairs_get]
      simp only [listParts, ListRequest.path, Prod.mk.injEq] at hparts
      obtain ⟨-, rfl, -⟩ := hparts
      by_cases hpairs : ListRequest.pairs filter page = []
      · -- Without pairs the address ends behind the collection.
        rw [hpairs] at hu ⊢
        have hquery : Url.parse? (c.baseUrl ++ collection.path ++ "/" ++ "") = some u := by
          rw [String.append_empty, String.append_assoc]
          exact hu
        exact query_collection hbase hquery hweb
      · have haddress : c.baseUrl ++ (collection.path ++ "/") ++ "?" ++
              Form.render (ListRequest.pairs filter page) =
            c.baseUrl ++ collection.path ++ "/" ++
              ("?" ++ Form.render (ListRequest.pairs filter page)) := by
          simp only [String.append_assoc]
        rw [if_neg (by simpa [String.isEmpty_iff] using Form.render_ne_empty hpairs),
          haddress] at hu
        have hform : ("?" ++ Form.render (ListRequest.pairs filter page)).toList =
            '?' :: Form.encode (ListRequest.pairs filter page) := by
          simp [Form.render]
        rw [query_collection hbase hu hweb, hform, Url.back_form,
          List.dropWhile_cons_of_neg (by decide), Url.queryOf_form, Url.pairsQuery,
          List.isEmpty_eq_false_iff.2 hpairs]
        rfl
  | post =>
      obtain ⟨criteria, -, rfl⟩ := Option.map_eq_some_iff.1 hrequest
      simp only [listParts, ListRequest.path, Prod.mk.injEq] at hparts
      obtain ⟨-, rfl, -⟩ := hparts
      have haddress : c.baseUrl ++ (collection.path ++ "/.search") =
          c.baseUrl ++ collection.path ++ "/" ++ ".search" := by
        simp only [String.append_assoc]
        rfl
      rw [haddress] at hu
      rw [query_collection hbase hu hweb]
      rfl

/-- **The query that a list request is sent with is the form of its pairs.** -/
theorem query_listRequest {method : Method} {address body : String} {token : Option String}
    {q : Request}
    (hparts : Call.listParts? c collection listMethod filter page = some (method, address, body))
    (hq : c.lookupRequest method address body token = .ok q) :
    q.url.query = Url.pairsQuery (c.listPairs listMethod filter page) := by
  obtain ⟨d, d', hd, -, -⟩ := lookupRequest_ok hq
  obtain ⟨u, hu, -⟩ := server_draft? hd
  obtain ⟨-, -, hquery, hweb⟩ := url_lookupRequest hu hq
  rw [hquery, query_addressed (query_listParts? hbase hparts hu hweb)]
  rfl

end Base

/-- The base of a client that is placed holds neither mark, as far as it counts. -/
theorem IsPlaced.front_plain {base : Url} (h : c.IsPlaced base) :
    ∀ x ∈ Url.front c.baseUrl.toList, Url.endsPath x = false := by
  obtain ⟨hquery, hfragment⟩ := Url.reads_tail h.reads h.isWeb
  have haddress : c.baseUrl ++ "/" = .ofList (c.baseUrl.toList ++ '/' :: []) :=
    String.toList_inj.1 (by simp)
  rw [h.query, haddress, Url.cleaned_slash] at hquery
  rw [h.fragment, haddress, Url.cleaned_slash] at hfragment
  intro x hx
  exact Url.all_path_of_none hquery.symm hfragment.symm x (List.mem_append_left _ hx)

/-! ## What is sent -/

/-- The request asks for a token of the client, or its query says these pairs. -/
def Says (c : Client) (ps : List (String × String)) (q : Request) : Prop :=
  c.grantRequest? = some (.ok q) ∨ q.url.SaysPairs ps

theorem says_list {α : Type} (hbase : '?' ∉ c.baseUrl.toList ∧ '#' ∉ c.baseUrl.toList)
    (operation : Operation) (r : Reader α) (collection : Collection) (method : ListMethod)
    (filter : Filter) (page : Page) :
    SendsOnly (c.Says (c.listPairs method filter page))
      (c.list operation r collection method filter page) := by
  have hfront : ∀ x ∈ Url.front c.baseUrl.toList, Url.endsPath x = false := by
    intro x hx
    have hmem := (Url.front_sublist _).subset hx
    rw [Url.endsPath, Bool.or_eq_false_iff, beq_eq_false_iff_ne, beq_eq_false_iff_ne]
    exact ⟨fun h => hbase.1 (h ▸ hmem), fun h => hbase.2 (h ▸ hmem)⟩
  apply sendsOnly_list (fun q hq => Or.inl hq)
  intro m address body token q hparts hq
  exact Or.inr (Url.saysPairs_of_query (query_listRequest hfront hparts hq))

/-- **The query of a list request is read as what it was made from.** Below a base without question
mark and hash, whatever is sent to list users or groups, apart from what asks for a token, has the
pairs of the request in its query, in their order, and nothing else; and no query if there are no
pairs. -/
theorem query_says_pairs (hbase : '?' ∉ c.baseUrl.toList ∧ '#' ∉ c.baseUrl.toList)
    (method : ListMethod) (filter : Filter) (page : Page) :
    SendsOnly (c.Says (c.listPairs method filter page)) (c.listUsers method filter page) ∧
      SendsOnly (c.Says (c.listPairs method filter page)) (c.listGroups method filter page) :=
  ⟨says_list hbase _ _ _ method filter page, says_list hbase _ _ _ method filter page⟩

/-- A cursor with the marks of a form and an id with the mark of a fragment stay what they are. -/
theorem query_says_pairs_marked :
    ('?' ∉ (plain "http://[::1]/scim" (.mtls "id#1" ⟨[], []⟩)).baseUrl.toList ∧
        '#' ∉ (plain "http://[::1]/scim" (.mtls "id#1" ⟨[], []⟩)).baseUrl.toList) ∧
      SendsOnly ((plain "http://[::1]/scim" (.mtls "id#1" ⟨[], []⟩)).Says
          [("count", "2"), ("cursor", "&count=9"), ("client_id", "id#1")])
        ((plain "http://[::1]/scim" (.mtls "id#1" ⟨[], []⟩)).listUsers .get .absent
          ⟨some "&count=9", some 2⟩) ∧
      ∃ q, (plain "http://[::1]/scim" (.mtls "id#1" ⟨[], []⟩)).lookupRequest .get
          "http://[::1]/scim/Users/?count=2&cursor=%26count%3D9" "" none = .ok q ∧
        q.url.query = some "count=2&cursor=%26count%3D9&client_id=id%231" := by
  have hbase : '?' ∉ (plain "http://[::1]/scim" (.mtls "id#1" ⟨[], []⟩)).baseUrl.toList ∧
      '#' ∉ (plain "http://[::1]/scim" (.mtls "id#1" ⟨[], []⟩)).baseUrl.toList := by
    decide
  have hcount : Decimal.text 2 = "2" := by
    have hdigits : Decimal.digits 2 = ['2'] := by
      rw [Decimal.digits]
      rfl
    exact congrArg String.ofList hdigits
  obtain ⟨hsent, -⟩ := query_says_pairs hbase .get .absent ⟨some "&count=9", some 2⟩
  refine ⟨hbase, ?_, _, rfl, ?_⟩
  · rw [← hcount]
    exact hsent
  · decide

end Client

end ScimLookup
