import ScimLookup.Proofs.Scim.Destination
import ScimLookup.Proofs.Url.Directory

/-!
# Ids that are one segment

The address of a lookup by id is put together as text, so it is the address of the resource with
this id only where the id reads as one segment of a path. Which ids do is decided by the id alone
(`Url.isSegment`): those that hold no separator, no break and no escape, do not end in a blank, and
are neither empty nor a step through the path. With any other id the lookup asks for something else
(`addressesOne_iff`), with `../Groups/` in front for a group instead of a user
(`getUser_of_climbing`).
-/

set_option autoImplicit false

namespace ScimLookup

namespace Url

/-! ## Segments -/

/-- A piece of a path is a part of it without a slash. -/
theorem pathPieces_facts {special : Bool} {cs p : List Char} (hp : p ∈ pathPieces special cs) :
    p.Sublist cs ∧ ∀ c ∈ p, isSlash special c = false := by
  induction cs generalizing p with
  | nil =>
      rw [pathPieces, List.mem_singleton] at hp
      subst hp
      exact ⟨.slnil, fun c hc => by cases hc⟩
  | cons c cs ih =>
      rw [pathPieces] at hp
      split at hp
      · rename_i h
        exact absurd h (pathPieces_ne_nil special cs)
      · rename_i q qs h
        rw [h] at ih
        split at hp
        · rcases List.mem_cons.1 hp with rfl | hp
          · exact ⟨List.nil_sublist _, fun d hd => by cases hd⟩
          · obtain ⟨hsub, hslash⟩ := ih hp
            exact ⟨hsub.cons c, hslash⟩
        · rename_i hc
          rcases List.mem_cons.1 hp with rfl | hp
          · obtain ⟨hsub, hslash⟩ := ih List.mem_cons_self
            refine ⟨hsub.cons_cons c, ?_⟩
            intro d hd
            rcases List.mem_cons.1 hd with rfl | hd
            · simpa using hc
            · exact hslash d hd
          · obtain ⟨hsub, hslash⟩ := ih (List.mem_cons_of_mem q hp)
            exact ⟨hsub.cons c, hslash⟩

/-- A last segment that is not empty was not a step through the path. -/
theorem follow_single {done dir : List String} {s t : String}
    (h : follow done [s] = dir ++ [t]) (ht : t ≠ "") :
    t = s ∧ isHere s = false ∧ isAbove s = false := by
  rw [follow] at h
  split at h
  · exact absurd (List.append_inj' h rfl).2 (by simpa using ht.symm)
  · rename_i habove
    split at h
    · exact absurd (List.append_inj' h rfl).2 (by simpa using ht.symm)
    · rename_i hhere
      have hlast := (List.append_inj' h rfl).2
      exact ⟨(List.cons.inj hlast).1.symm, by simpa using hhere, by simpa using habove⟩

/-- What a segment stands for is what its text stands for. -/
theorem decode_segmentText (cs : List Char) :
    Percent.decode (Utf8.ofString (segmentText cs)) = Percent.decode (Utf8.encode cs) := by
  have hplain : ∀ c, isPathEscaped c = true → c ≠ '%' ∧ Percent.hexValue? c.toNat = none := by
    intro c hc
    have hcases : isControl c = true ∨
        c ∈ [' ', '\x22', '<', '>', '\x60', '#', '?', '\x7b', '\x7d'] := by
      simpa [isPathEscaped, isFragmentEscaped, or_assoc] using hc
    rcases hcases with hcontrol | hmem
    · have hrange : c.toNat < 0x20 ∨ 0x7E < c.toNat := of_decide_eq_true hcontrol
      refine ⟨?_, ?_⟩
      · rintro rfl
        exact absurd hrange (by decide)
      · rw [Percent.hexValue?, if_neg (by omega), if_neg (by omega), if_neg (by omega)]
    · simp only [List.mem_cons, List.not_mem_nil, or_false] at hmem
      rcases hmem with rfl | rfl | rfl | rfl | rfl | rfl | rfl | rfl | rfl <;> decide
  rw [Utf8.ofString, segmentText, String.toList_ofList]
  exact Percent.decode_encode hplain [] cs

/-! ## Ids -/

/-- The text reads as one segment of a path that stands for the text. -/
def isSegment (s : String) : Bool :=
  !s.isEmpty && s.toList.all (fun c => !isBreak c && !isSlash true c && !endsPath c) &&
    !s.toList.getLast?.any isEdge && !isHere (segmentText s.toList) &&
    !isAbove (segmentText s.toList) &&
    Percent.decode (Utf8.ofString s) == Utf8.ofString s

/-- The address is that of one resource in a directory, the one with the id: the path goes on with
one segment, which stands for the id, and there is neither a query nor a fragment. -/
def AddressesOne (dir : List String) (id : String) (u : Url) : Prop :=
  ∃ s, u.path = .segments (dir ++ [s]) ∧ s ≠ "" ∧
    Percent.decode (Utf8.ofString s) = Utf8.ofString id ∧ u.query = none ∧ u.fragment = none

section Reference

variable {u : Url} {dir : List String} {id : String}

theorem isSegment_iff : isSegment id = true ↔
    id ≠ "" ∧ (∀ c ∈ id.toList, isBreak c = false ∧ isSlash true c = false ∧ endsPath c = false) ∧
      id.toList.getLast?.any isEdge = false ∧ isHere (segmentText id.toList) = false ∧
      isAbove (segmentText id.toList) = false ∧
      Percent.decode (Utf8.ofString id) = Utf8.ofString id := by
  simp only [isSegment, Bool.and_eq_true, Bool.not_eq_true', List.all_eq_true, beq_iff_eq,
    String.isEmpty_eq_false_iff, and_assoc]

/-- An id that reads as a segment is one segment more, and nothing else. -/
theorem addressesOne_of_isSegment (h : isSegment id = true) :
    (u.reference dir (back id.toList)).AddressesOne dir id := by
  obtain ⟨hne, hchars, hedge, hhere, habove, hdecode⟩ := isSegment_iff.1 h
  have hends : ∀ c ∈ id.toList, (!endsPath c) = true := fun c hc => by
    rw [(hchars c hc).2.2]
    rfl
  have htake : id.toList.takeWhile (!endsPath ·) = id.toList := Text.takeWhile_eq_self hends
  have hdrop : id.toList.dropWhile (!endsPath ·) = [] :=
    (Text.dropWhile_eq_nil_iff _ _).2 hends
  rw [back_eq_self (fun c hc => (hchars c hc).1) hedge]
  refine ⟨segmentText id.toList, ?_, ?_, ?_, ?_, ?_⟩
  · rw [reference, htake, pathPieces_of_not_mem fun c hc => (hchars c hc).2.1]
    exact congrArg UrlPath.segments (follow_plain dir hhere habove)
  · -- An empty segment stands for the empty text.
    intro hnil
    apply hne
    have hempty := decode_segmentText id.toList
    rw [hnil, ← Utf8.ofString, hdecode] at hempty
    have hread := Utf8.toString?_ofString id
    rw [← hempty] at hread
    exact (Option.some.inj hread).symm
  · rw [decode_segmentText]
    exact hdecode
  · rw [reference, hdrop]
    rfl
  · rw [reference, hdrop]
    rfl

/-- An id that addresses one resource is a segment. -/
theorem isSegment_of_addressesOne (h : (u.reference dir (back id.toList)).AddressesOne dir id) :
    isSegment id = true := by
  obtain ⟨s, hpath, hne, hdecode, hquery, hfragment⟩ := h
  -- All of what is left of the id is path, and its last piece is the segment.
  have hends := all_path_of_none hquery hfragment
  have htake : (back id.toList).takeWhile (!endsPath ·) = back id.toList :=
    Text.takeWhile_eq_self fun c hc => by rw [hends c hc]; rfl
  rcases List.eq_nil_or_concat (pathPieces true (back id.toList)) with hnil | ⟨ps, p, hpieces⟩
  · exact absurd hnil (pathPieces_ne_nil true _)
  have hfollow : follow dir ((pathPieces true (back id.toList)).map segmentText) = dir ++ [s] := by
    rw [reference, htake] at hpath
    exact UrlPath.segments.inj hpath
  rw [hpieces, List.concat_eq_append, List.map_append, List.map_singleton,
    follow_append dir _ (List.cons_ne_nil _ _)] at hfollow
  obtain ⟨rfl, hhere, habove⟩ := follow_single hfollow hne
  -- The segment stands for the whole id, so the piece cannot be shorter than the id.
  have hp : p ∈ pathPieces true (back id.toList) := by rw [hpieces]; simp
  obtain ⟨hsub, hslash⟩ := pathPieces_facts hp
  have hlength : (Utf8.encode id.toList).length ≤ (Utf8.encode p).length := by
    rw [decode_segmentText] at hdecode
    rw [← Utf8.ofString, ← hdecode]
    exact Percent.length_decode_le _
  have hself : p = id.toList := by
    have hcount := Utf8.length_encode_sublist (hsub.trans (back_sublist _))
    exact (hsub.trans (back_sublist _)).eq_of_length_le (by omega)
  have hback : back id.toList = id.toList :=
    (back_sublist _).eq_of_length_le (by rw [hself] at hsub; exact hsub.length_le)
  obtain ⟨hbreak, hedge⟩ := facts_of_back_eq_self hback
  rw [hback] at hends
  rw [hself] at hhere habove hslash hdecode
  rw [decode_segmentText] at hdecode
  refine isSegment_iff.2
    ⟨?_, fun c hc => ⟨hbreak c hc, hslash c hc, hends c hc⟩, hedge, hhere, habove, hdecode⟩
  rintro rfl
  rw [hself] at hne
  exact hne rfl

/-- A segment before a slash is entered. -/
theorem reference_segment {name : String} (h : isSegment name = true) (cs : List Char) :
    u.reference dir (name.toList ++ '/' :: cs) =
      u.reference (dir ++ [segmentText name.toList]) cs := by
  obtain ⟨-, hchars, -, hhere, habove, -⟩ := isSegment_iff.1 h
  have hslash : isSlash true '/' = true := by decide
  obtain ⟨htake, hdrop⟩ := split_slash (fun c hc => (hchars c hc).2.2) cs
  rw [reference, reference, htake, hdrop, pathPieces_append hslash,
    pathPieces_of_not_mem fun c hc => (hchars c hc).2.1, List.singleton_append, List.map_cons,
    follow_cons dir _ (map_pathPieces_ne_nil true _), enter, habove, hhere]
  rfl

end Reference

end Url

/-! ## Lookups by id -/

/-- The segment of a collection in the path of an address. -/
def Collection.segment : Collection → String
  | .users => "Users"
  | .groups => "Groups"

theorem Collection.segment_facts (collection : Collection) :
    collection.path = "/" ++ collection.segment ∧ Url.isSegment collection.segment = true ∧
      Url.segmentText collection.segment.toList = collection.segment := by
  cases collection with
  | users => decide
  | groups => decide

/-- What is looked up in a collection stands behind its segment. -/
theorem Collection.address_eq (collection : Collection) (base s : String) :
    base ++ collection.path ++ "/" ++ s =
      .ofList (base.toList ++ '/' :: (collection.segment.toList ++ '/' :: s.toList)) := by
  rw [collection.segment_facts.1]
  exact String.toList_inj.1 (by simp)

theorem Collection.back_address (collection : Collection) (cs : List Char) :
    Url.back (collection.segment.toList ++ '/' :: cs) =
      collection.segment.toList ++ '/' :: Url.back cs := by
  obtain ⟨-, hchars, -⟩ := Url.isSegment_iff.1 collection.segment_facts.2.1
  have hbreak : collection.segment.toList.filter (!Url.isBreak ·) = collection.segment.toList :=
    List.filter_eq_self.2 fun d hd => by
      rw [(hchars d hd).1]
      rfl
  rw [Url.back_slash, hbreak]

namespace Client

/-- What an address says behind its server stays when it is made into a request, but for what the
credentials bring to the query. Only addresses of the web are made into one. -/
theorem url_lookupRequest {c : Client} {method : Method} {address body : String}
    {token : Option String} {q : Request} {u : Url} (hu : Url.parse? address = some u)
    (hq : c.lookupRequest method address body token = .ok q) :
    q.url.path = u.path ∧ q.url.fragment = u.fragment ∧
      q.url.query = (addressed u c.credentials).query ∧ u.isWeb = true := by
  obtain ⟨d, d', hd, hauth, hfinished⟩ := lookupRequest_ok hq
  have hdraft : d.url = u ∨ d.url = u.withoutUser := by
    simp only [draft?, hu, Option.bind_eq_bind, Option.bind_some] at hd
    split at hd
    · cases hd
      exact Or.inl rfl
    · split at hd
      · cases hd
        exact Or.inr rfl
      · cases hd
        exact Or.inl rfl
  obtain ⟨hurl, hsendable⟩ := url_finished hfinished
  have hweb : d'.url.isWeb = true := by
    rw [Url.isSendable, Bool.and_eq_true, Bool.and_eq_true] at hsendable
    exact hsendable.1.1
  rw [hurl]
  rw [url_authorize hauth] at hweb ⊢
  rcases hdraft with hdraft | hdraft
  · rw [hdraft] at hweb ⊢
    cases hc : c.credentials <;> rw [hc] at hweb <;> exact ⟨rfl, rfl, rfl, hweb⟩
  · rw [hdraft] at hweb ⊢
    cases hc : c.credentials <;> rw [hc] at hweb <;> exact ⟨rfl, rfl, rfl, hweb⟩

/-- The client looks things up below an address of the web without a query and a fragment. -/
structure IsPlaced (c : Client) (base : Url) : Prop where
  reads : Url.parse? (c.baseUrl ++ "/") = some base
  isWeb : base.isWeb = true
  query : base.query = none
  fragment : base.fragment = none

theorem isPlaced_plain : (plain "http://[::1]/scim" (.basic "id" "secret")).IsPlaced
    { scheme := "http", username := "", password := none
      host := some (.eight [0, 0, 0, 0, 0, 0, 0, 1]), hasAuthority := true, port := none
      path := .segments ["scim", ""], query := none, fragment := none } :=
  ⟨rfl, by decide, rfl, rfl⟩

/-- What stands behind a collection is read from there. -/
theorem IsPlaced.exists_dir {c : Client} {base : Url} (h : c.IsPlaced base) :
    ∃ dir, base.path = .segments (dir ++ [""]) ∧ ∀ (collection : Collection) (s : String),
      Url.parse? (c.baseUrl ++ collection.path ++ "/" ++ s) =
        some (base.reference (dir ++ [collection.segment]) (Url.back s.toList)) := by
  have hslash : Url.parse? (.ofList (c.baseUrl.toList ++ ['/'])) = some base := by
    rw [← h.reads]
    exact congrArg Url.parse? (String.toList_inj.1 (by simp))
  obtain ⟨dir, hpath, hread⟩ := Url.parse?_inDirectory hslash h.isWeb h.query h.fragment
  refine ⟨dir, hpath, fun collection s => ?_⟩
  obtain ⟨-, hsegment, htext⟩ := collection.segment_facts
  rw [collection.address_eq, hread, collection.back_address, Url.reference_segment hsegment, htext]

/-- **A lookup by id is about one resource exactly if the id reads as a segment.** Below an address
of the web without a query and a fragment there is an address for every id. It is that of the one
resource with this id in the collection if the id is a segment that stands for itself, and of
something else if not; and this is what is asked for. -/
theorem addressesOne_iff {c : Client} {base : Url} (h : c.IsPlaced base) :
    ∃ dir, base.path = .segments (dir ++ [""]) ∧ ∀ (collection : Collection) (id : String), ∃ u,
      Url.parse? (c.baseUrl ++ collection.path ++ "/" ++ id) = some u ∧
      (u.AddressesOne (dir ++ [collection.segment]) id ↔ Url.isSegment id = true) ∧
      ∀ (token : Option String) (q : Request),
        c.lookupRequest .get (c.baseUrl ++ collection.path ++ "/" ++ id) "" token = .ok q →
        q.url.path = u.path ∧ q.url.fragment = u.fragment := by
  obtain ⟨dir, hpath, hread⟩ := h.exists_dir
  refine ⟨dir, hpath, fun collection id => ?_⟩
  refine ⟨_, hread collection id,
    ⟨Url.isSegment_of_addressesOne, Url.addressesOne_of_isSegment⟩, ?_⟩
  intro token q hq
  obtain ⟨hsame, hfragment, -⟩ := url_lookupRequest (hread collection id) hq
  exact ⟨hsame, hfragment⟩

/-- A space is escaped, and stands for itself all the same. -/
theorem addressesOne_iff_spaced :
    ∃ base u : Url, (plain "http://[::1]/scim" (.basic "id" "secret")).IsPlaced base ∧
      Url.parse? "http://[::1]/scim/Users/a b" = some u ∧
      u.path = .segments ["scim", "Users", "a%20b"] ∧
      u.AddressesOne ["scim", "Users"] "a b" := by
  obtain ⟨dir, hpath, hids⟩ := addressesOne_iff isPlaced_plain
  have hdir : dir = ["scim"] :=
    (List.append_inj_left' (UrlPath.segments.inj hpath) rfl).symm
  subst hdir
  obtain ⟨u, hu, hiff, -⟩ := hids .users "a b"
  have hread : Url.parse? "http://[::1]/scim/Users/a b" = some
      { scheme := "http", username := "", password := none
        host := some (.eight [0, 0, 0, 0, 0, 0, 0, 1]), hasAuthority := true, port := none
        path := .segments ["scim", "Users", "a%20b"], query := none, fragment := none } := by
    rfl
  have hsame := hu.symm.trans hread
  cases hsame
  exact ⟨_, _, isPlaced_plain, hread, rfl, hiff.2 (by decide)⟩

/-- With `../Groups/` in front the id is that of a group, though a user is looked up. -/
theorem getUser_of_climbing :
    ∃ u : Url, Url.parse? "http://[::1]/scim/Users/../Groups/admins" = some u ∧
      u.path = .segments ["scim", "Groups", "admins"] ∧
      ¬ u.AddressesOne ["scim", "Users"] "../Groups/admins" := by
  refine ⟨_, rfl, rfl, ?_⟩
  rintro ⟨s, hpath, -⟩
  have hsegments : ["scim", "Groups", "admins"] = ["scim", "Users"] ++ [s] :=
    UrlPath.segments.inj hpath
  injection hsegments with _ hrest
  injection hrest with hsegment
  exact absurd hsegment (by decide)

end Client

end ScimLookup
