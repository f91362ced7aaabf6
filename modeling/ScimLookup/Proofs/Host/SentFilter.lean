import ScimLookup.Host.Service
import ScimLookup.Proofs.Scim.ListRequest
import ScimLookup.Proofs.Scim.SentQuery

/-!
# Filters as they are sent

Three questions of the host are searches for one name or id, and the filter of such a search
compares an attribute with it. The text of the filter is sent as it is, in the query or in the body
(`filterText?_lookupRequest`), and the name or id stands in it as it was given. So what is sent is
one comparison exactly if the name or id holds no quotation mark (`filters_sent`); whoever gives one
with a quotation mark can add comparisons of their own (`text_equals_injected`).
-/

set_option autoImplicit false

namespace ScimLookup

/-! ## The filter of a request -/

/-- The filter that a request carries, in the form of its query or in the criteria of its body. -/
def Request.filterText? (q : Request) : Option String :=
  match q.method with
  | .get => (Form.decode (q.url.query.getD "").toList).lookup "filter"
  | .post =>
    match SearchRequest.record.reader.ofBytes (Utf8.ofString q.body) with
    | .ok criteria => criteria.filter
    | .error _ => none

namespace Client

open Exchange Json

variable {c : Client} {base : Url}

/-- The request asks for a token of the client, or it carries a filter with this text. -/
def Carries (c : Client) (text : String) (q : Request) : Prop :=
  c.grantRequest? = some (.ok q) ∨ q.filterText? = some text

/-- **The request for a list carries the text of its filter.** -/
theorem filterText?_lookupRequest (h : c.IsPlaced base) {collection : Collection}
    {listMethod : ListMethod} {filter : Filter} {page : Page} (hf : filter.isAbsent = false)
    {method : Method} {address body : String} {token : Option String} {q : Request}
    (hparts : Call.listParts? c collection listMethod filter page = some (method, address, body))
    (hq : c.lookupRequest method address body token = .ok q) :
    q.filterText? = some filter.text := by
  have hquery := query_listRequest h.front_plain hparts hq
  obtain ⟨d, d', -, -, hfinished⟩ := lookupRequest_ok hq
  obtain ⟨hmethod, hbody⟩ := finished_ok hfinished
  obtain ⟨request, hrequest, hparts⟩ := Option.map_eq_some_iff.1 hparts
  cases listMethod with
  | get =>
      cases hrequest
      cases hparts
      have hfilter := (Criteria.lookup_pairs filter page).2.2
      rw [hf] at hfilter
      rw [Request.filterText?, hmethod, hquery]
      simp only [Url.decode_pairsQuery]
      rw [listPairs, requestPairs_get, List.lookup_append, hfilter]
      rfl
  | post =>
      simp only [ListRequest.build?, ListRequest.criteria?, hf] at hrequest
      cases hrequest
      cases hparts
      rw [Request.filterText?, hmethod, hbody, ListRequest.payload]
      simp only [SearchRequest.record_readsBack.ofBytes_compact]

/-- **A search sends the text of its filter, apart from asking for a token.** -/
theorem carries_list {α : Type} (h : c.IsPlaced base) (operation : Operation) (r : Reader α)
    (collection : Collection) (method : ListMethod) {filter : Filter}
    (hf : filter.isAbsent = false) (page : Page) :
    SendsOnly (c.Carries filter.text) (c.list operation r collection method filter page) := by
  apply sendsOnly_list (fun q hq => Or.inl hq)
  intro m address body token q hparts hq
  exact Or.inr (filterText?_lookupRequest h hf hparts hq)

end Client

/-! ## Comparisons -/

namespace Filter

/-- The text is one comparison of an attribute for equality: its first quotation mark opens the
value, its last character closes it, and there is none in between. -/
def IsOneComparison (path text : String) : Prop :=
  ∃ value : List Char, text.toList = (path ++ " eq ").toList ++ '\x22' :: (value ++ ['\x22']) ∧
    '\x22' ∉ (path ++ " eq ").toList ∧ '\x22' ∉ value

theorem toList_text_equals (path value : String) :
    (equals path value).text.toList =
      (path ++ " eq ").toList ++ '\x22' :: (value.toList ++ ['\x22']) := by
  simp [text, equals, written, Comparator.text]

/-- A comparison is one exactly if the value holds no quotation mark. -/
theorem isOneComparison_iff {path : String} (hpath : '\x22' ∉ path.toList) (value : String) :
    IsOneComparison path (equals path value).text ↔ '\x22' ∉ value.toList := by
  constructor
  · rintro ⟨inner, htext, -, hinner⟩
    rw [toList_text_equals] at htext
    have hrest := (List.append_cancel_left htext)
    rw [(List.append_cancel_right (List.cons.inj hrest).2)]
    exact hinner
  · intro hvalue
    refine ⟨value.toList, toList_text_equals path value, ?_, hvalue⟩
    rw [String.toList_append]
    intro hmem
    rcases List.mem_append.1 hmem with hmem | hmem
    · exact hpath hmem
    · exact absurd hmem (by decide)

/-- **A value with a quotation mark can bring in a comparison of its own.** The filter then reads as
the one that was meant, or the other. -/
theorem text_equals_injected (path value path' value' : String) (op : Comparator) :
    (equals path
        (value ++ "\x22 or " ++ path' ++ " " ++ op.text ++ " \x22" ++ value')).text =
      (equals path value).text ++ " or " ++ (compare path' op value').text := by
  apply String.toList_inj.1
  simp [text, equals, written, Comparator.text]

end Filter

/-! ## Questions -/

namespace Service

open Exchange

theorem carries_groupsWhere {serving : Serving} {client : Client} {base : Url}
    (h : client.IsPlaced base) (question : Question) {filter : Filter}
    (hf : filter.isAbsent = false) :
    SendsOnly (client.Carries filter.text) (groupsWhere question serving client filter) :=
  (Client.carries_list h _ _ _ _ hf _).map _

/-- **The filter of a question is what the host asked for, as it was asked for.** A question about
the name of a group, the groups of a user, or the users of a group that are searched for, sends the
comparison of the attribute with the name or id; and this is one comparison exactly if the name or
id holds no quotation mark. -/
theorem filters_sent (s : Service) :
    (∀ (r : GetGroupRequest) (serving : Serving) (client : Client) (base : Url),
      s.prepare .getGroup (some r.groupName) r.context = .ok (serving, client) →
      client.IsPlaced base →
      SendsOnly (client.Carries (Filter.equals serving.params.groupAttribute r.groupName).text)
        (s.getGroup r)) ∧
    (∀ (r : GetGroupsForUserRequest) (serving : Serving) (client : Client) (base : Url),
      s.prepare .getGroupsForUser (some r.userId) r.context = .ok (serving, client) →
      client.IsPlaced base →
      SendsOnly (client.Carries (Filter.equals serving.params.userAttribute r.userId).text)
        (s.getGroupsForUser r)) ∧
    (∀ (r : GetUsersForGroupRequest) (serving : Serving) (client : Client) (base : Url)
      (path : String) (method : ListMethod),
      s.prepare .getUsersForGroup (some r.groupId) r.context = .ok (serving, client) →
      client.IsPlaced base → serving.membership = .search path method →
      SendsOnly (client.Carries (Filter.equals path r.groupId).text) (s.getUsersForGroup r)) ∧
    ∀ path value : String, '\x22' ∉ path.toList →
      (Filter.IsOneComparison path (Filter.equals path value).text ↔ '\x22' ∉ value.toList) := by
  refine ⟨?_, ?_, ?_, ?_⟩
  · intro r serving client base hready hplaced
    rw [getGroup, hready]
    exact (carries_groupsWhere hplaced _ rfl).map _
  · intro r serving client base hready hplaced
    rw [getGroupsForUser, hready]
    exact (carries_groupsWhere hplaced _ rfl).map _
  · intro r serving client base path method hready hplaced hmembership
    rw [getUsersForGroup, hready]
    simp only [hmembership]
    exact ((Client.carries_list hplaced _ _ _ _ rfl _).map _).map _
  · intro path value hpath
    exact Filter.isOneComparison_iff hpath value

/-- A name with the end of a group and the word of a disjunction stays within its comparison. -/
theorem filters_sent_plain :
    (Client.plain "http://[::1]/scim" (.basic "id" "secret")).IsPlaced
        { scheme := "http", username := "", password := none
          host := some (.eight [0, 0, 0, 0, 0, 0, 0, 1]), hasAuthority := true, port := none
          path := .segments ["scim", ""], query := none, fragment := none } ∧
      SendsOnly ((Client.plain "http://[::1]/scim" (.basic "id" "secret")).Carries
          "displayName eq \x22x) or (y\x22")
        (getGroup ⟨some ⟨.plain "http://[::1]/scim" (.basic "id" "secret"), .standard, none,
          .traversal⟩⟩ ⟨"x) or (y", .empty⟩) ∧
      Filter.IsOneComparison "displayName" "displayName eq \x22x) or (y\x22" := by
  have htext : (Filter.equals "displayName" "x) or (y").text =
      "displayName eq \x22x) or (y\x22" := by
    decide
  obtain ⟨hgroup, -, -, hone⟩ := filters_sent ⟨some
    ⟨.plain "http://[::1]/scim" (.basic "id" "secret"), .standard, none, .traversal⟩⟩
  have hsent := hgroup ⟨"x) or (y", .empty⟩
    ⟨.plain "http://[::1]/scim" (.basic "id" "secret"), .standard, none, .traversal⟩
    (.plain "http://[::1]/scim" (.basic "id" "secret")) _ rfl Client.isPlaced_plain
  refine ⟨Client.isPlaced_plain, ?_, ?_⟩
  · rw [← htext]
    exact hsent
  · rw [← htext]
    exact (hone "displayName" "x) or (y" (by decide)).2 (by decide)

/-- A name that ends the comparison and brings in another one is accepted. -/
theorem filters_sent_injected :
    ∃ (s : Service) (serving : Serving) (client : Client) (base : Url),
      s.prepare .getGroup (some "x\x22 or displayName sw \x22") .empty = .ok (serving, client) ∧
      client.IsPlaced base ∧ serving.params.groupAttribute = "displayName" ∧
      (Filter.equals "displayName" "x\x22 or displayName sw \x22").text =
        "displayName eq \x22x\x22 or displayName sw \x22\x22" ∧
      ¬ Filter.IsOneComparison "displayName"
        (Filter.equals "displayName" "x\x22 or displayName sw \x22").text := by
  refine ⟨⟨some ⟨_, .standard, none, .traversal⟩⟩, ⟨_, .standard, none, .traversal⟩, _, _, rfl,
    Client.isPlaced_plain, rfl, by decide, ?_⟩
  rw [Filter.isOneComparison_iff (by decide)]
  decide

end Service

end ScimLookup
