import ScimLookup.Proofs.Scim.Ending
import ScimLookup.Proofs.Scim.SentHeaders
import ScimLookup.Proofs.Settings.Sequence

/-!
# Aiming clients

A client is aimed at a target by setting the headers of the target one after the other, and the
first one that is unfit stops it. Aiming a client twice is the same as aiming it once at both
targets together (`Target.followedBy`), in what comes out and in what goes wrong, and so is aiming
it any number of times (`aimedAlong_eq`).

The client that is aimed stays as it is. A program has the clients that it made (`Fleet`), and
whatever it aims and calls, each of them goes on sending below its own address and with its own
headers (`Fleet.keeps_after`). The main result (`targets_compose`) says both of every client.
-/

set_option autoImplicit false

namespace ScimLookup

/-! ## Headers that are refused -/

/-- What is wrong with a header that is to be sent along. -/
inductive Header.IsUnfit (name value : String) : HeaderFault → Prop
  /-- The name is malformed. -/
  | malformed : Header.name? name = none → IsUnfit name value .name
  /-- The name is one that clients set themselves. -/
  | reserved {lowered : String} :
      Header.name? name = some lowered → lowered ∈ Client.reserved → IsUnfit name value .reserved
  /-- The value cannot be sent. -/
  | unsendable {lowered : String} :
      Header.name? name = some lowered → lowered ∉ Client.reserved → isValue value = false →
      IsUnfit name value .value

namespace Client

theorem addHeader_of_unfit {name value : String} {fault : HeaderFault}
    (h : Header.IsUnfit name value fault) (hs : Headers) :
    addHeader hs (name, value) = .error (.invalidHeader name fault) := by
  cases h with
  | malformed hname => simp [addHeader, hname]
  | reserved hname hmem => simp [addHeader, hname, hmem]
  | unsendable hname hmem hvalue => simp [addHeader, hname, hmem, hvalue]

theorem exists_addHeader_eq_ok {name value : String}
    (h : ∀ fault, ¬ Header.IsUnfit name value fault) (hs : Headers) :
    ∃ hs', addHeader hs (name, value) = .ok hs' := by
  cases hname : Header.name? name with
  | none => exact absurd (.malformed hname) (h .name)
  | some lowered =>
      by_cases hmem : lowered ∈ reserved
      · exact absurd (.reserved hname hmem) (h .reserved)
      · cases hvalue : Header.isValue value with
        | false => exact absurd (.unsendable hname hmem hvalue) (h .value)
        | true => exact ⟨Header.set lowered value hs, by simp [addHeader, hname, hmem, hvalue]⟩

/-- A header is refused with an error that names it. -/
def IsRefused (h : String × String) (e : ClientError) : Prop :=
  ∃ fault, Header.IsUnfit h.1 h.2 fault ∧ e = .invalidHeader h.1 fault

theorem addHeader_eq_error_iff {hs : Headers} {h : String × String} {e : ClientError} :
    addHeader hs h = .error e ↔ IsRefused h e := by
  constructor
  · intro he
    by_cases hunfit : ∃ fault, Header.IsUnfit h.1 h.2 fault
    · obtain ⟨fault, hunfit⟩ := hunfit
      rw [addHeader_of_unfit hunfit hs] at he
      exact ⟨fault, hunfit, (Except.error.inj he).symm⟩
    · obtain ⟨hs', hok⟩ := exists_addHeader_eq_ok (not_exists.1 hunfit) hs
      rw [hok] at he
      cases he
  · rintro ⟨fault, hunfit, rfl⟩
    exact addHeader_of_unfit hunfit hs

/-- **Setting headers one after the other stops at the first one that is refused.** -/
theorem goesThrough_foldlM_addHeader (given : List (String × String)) (hs : Headers) :
    GoesThrough IsRefused given (given.foldlM addHeader hs) := by
  induction given generalizing hs with
  | nil => exact .ok (List.forall_mem_nil _) hs
  | cons h given ih =>
      have hfirst : GoesThrough IsRefused [h] (addHeader hs h) :=
        .single fun _ => addHeader_eq_error_iff
      rw [List.foldlM_cons]
      exact hfirst.bind fun hs' _ => ih hs'

end Client

/-- Headers set one over another, under their names in lower case. -/
def Header.setAll (given : List (String × String)) (hs : Headers) : Headers :=
  given.foldl (fun hs h => set (Text.lower h.1) h.2 hs) hs

namespace Client

theorem foldlM_addHeader_ok {given : List (String × String)} {hs hs' : Headers}
    (h : given.foldlM addHeader hs = .ok hs') : hs' = Header.setAll given hs := by
  induction given generalizing hs with
  | nil => exact (Except.ok.inj h).symm
  | cons first given ih =>
      rw [List.foldlM_cons] at h
      obtain ⟨hs₁, hfirst, hrest⟩ := ok_of_bind h
      rw [ih hrest, (addHeader_ok hfirst).2]
      rfl

end Client

/-! ## Targets one after the other -/

/-- Two targets as one: the host of the second, or else of the first, and the headers of both. -/
def Target.followedBy (t t' : Target) : Target :=
  ⟨t'.host.or t.host, t.headers ++ t'.headers⟩

namespace Client

/-- Aiming stops at the first header that is refused. -/
theorem goesThrough_aimedAt (c : Client) (t : Target) :
    GoesThrough IsRefused t.headers (c.aimedAt t) := by
  rw [aimedAt]
  exact (goesThrough_foldlM_addHeader t.headers c.headers).bind_ok fun hs _ => ⟨_, rfl⟩

/-- **Aiming a client twice is aiming it at both targets together.** -/
theorem aimedAt_followedBy (c : Client) (t t' : Target) :
    c.aimedAt (t.followedBy t') = c.aimedAt t >>= fun c' => c'.aimedAt t' := by
  rw [aimedAt, aimedAt, Target.followedBy, List.foldlM_append]
  cases t.headers.foldlM addHeader c.headers with
  | error e => rfl
  | ok hs =>
      -- The host of the second target hides that of the first.
      have hhost : ((t'.host.or t.host).map trimSlashes).getD c.baseUrl =
          (t'.host.map trimSlashes).getD ((t.host.map trimSlashes).getD c.baseUrl) := by
        cases t'.host <;> rfl
      simp only [hhost]
      rfl

/-- **Aiming a client any number of times is aiming it once.** -/
theorem aimedAlong_eq (c : Client) (targets : List Target) :
    c.aimedAlong targets = c.aimedAt (targets.foldl Target.followedBy ⟨none, []⟩) := by
  have hfold : ∀ t : Target, (c.aimedAt t >>= fun c' => c'.aimedAlong targets) =
      c.aimedAt (targets.foldl Target.followedBy t) := by
    induction targets with
    | nil =>
        intro t
        exact bind_pure (c.aimedAt t)
    | cons t' targets ih =>
        intro t
        rw [List.foldl_cons, ← ih, aimedAt_followedBy, bind_assoc]
        rfl
  exact hfold ⟨none, []⟩

/-- What comes of aiming a client at one target and then at another. -/
structure Composes (c : Client) (t t' : Target) : Prop where
  /-- It is what comes of aiming it once, at both together. -/
  outcome_eq : (c.aimedAt t >>= fun c' => c'.aimedAt t') = c.aimedAt (t.followedBy t')
  /-- It fails for the first header that is refused, and for nothing else. -/
  refused : GoesThrough IsRefused (t.headers ++ t'.headers)
    (c.aimedAt t >>= fun c' => c'.aimedAt t')
  /-- Otherwise there is a client that shares the credentials and the token, has the address of the
  second host, or else of the first, or else its own, and sends along what was set. -/
  aimed : ∀ c', (c.aimedAt t >>= fun c' => c'.aimedAt t') = .ok c' →
    c.Family c' ∧ c' = { c with
      baseUrl := ((t'.host.or t.host).map trimSlashes).getD c.baseUrl
      headers := Header.setAll (t.headers ++ t'.headers) c.headers }
  /-- What was set last counts, whatever the case of the names. -/
  kept : ∀ given c', IsKept c.headers given →
    (c.aimedAt t >>= fun c' => c'.aimedAt t') = .ok c' →
    IsKept c'.headers (given ++ (t.headers ++ t'.headers))

theorem composes (c : Client) (t t' : Target) : c.Composes t t' := by
  have heq := aimedAt_followedBy c t t'
  refine
    { outcome_eq := heq.symm
      refused := ?_
      aimed := ?_
      kept := ?_ }
  · rw [← heq]
    exact goesThrough_aimedAt c (t.followedBy t')
  · intro c' h
    rw [← heq] at h
    refine ⟨Family.root.aimedAt h, ?_⟩
    obtain ⟨hs, hadd, rfl⟩ := aimedAt_ok h
    rw [foldlM_addHeader_ok hadd]
    rfl
  · intro given c' hkept h
    rw [← heq] at h
    obtain ⟨hs, hadd, rfl⟩ := aimedAt_ok h
    exact hkept.foldlM_addHeader hadd

end Client

/-! ## Where lookups go, and what they carry -/

/-- The request is that of a lookup of a client, with whatever token. -/
def Client.LooksUp (c : Client) (q : Request) : Prop :=
  ∃ (call : Call) (parts : Method × String × String) (token : Option String),
    call.parts? c = some parts ∧ c.requestOf parts token = .ok q

/-- The address as it is sent to: user and password are sent in a header. -/
def Url.openly (u : Url) : Url :=
  if u.credentials?.isSome then u.withoutUser else u

/-- The request is sent to something in a collection below an address, with what the credentials
bring to the query. -/
def Request.IsBelow (q : Request) (address : String) (credentials : Credentials) : Prop :=
  ∃ (collection : Collection) (s : String) (u : Url),
    Url.parse? (address ++ collection.path ++ "/" ++ s) = some u ∧
      q.url = Client.addressed u.openly credentials

/-- A lookup is sent below the address of its client. -/
theorem Client.LooksUp.isBelow {c : Client} {q : Request} (h : c.LooksUp q) :
    q.IsBelow c.baseUrl c.credentials := by
  obtain ⟨call, ⟨method, address, body⟩, token, hparts, hq⟩ := h
  obtain ⟨collection, s, rfl⟩ := Call.address_of_parts? hparts
  obtain ⟨d, d', hd, hauth, hfinished⟩ := lookupRequest_ok hq
  obtain ⟨u, hu, hd⟩ := Option.bind_eq_some_iff.1 hd
  obtain ⟨-, -, -, hweb⟩ := url_lookupRequest hu hq
  refine ⟨collection, s, u, hu, ?_⟩
  rw [(url_finished hfinished).1, url_authorize hauth]
  -- Addresses of the web have a host.
  have hurl : d.url = u.openly := by
    rw [if_neg (by simp [Option.isSome_iff_ne_none.1 (Url.isSome_host hu hweb)])] at hd
    rw [Url.openly]
    split at hd
    · rename_i hsome
      cases hd
      rw [hsome]
      rfl
    · rename_i hnone
      cases hd
      rw [hnone]
      rfl
  rw [hurl]

namespace Client

/-- The address of a lookup brings an authorization at most. -/
theorem values_draft? {address name : String} {d : Draft} (h : draft? address = some d)
    (hname : name ≠ "authorization") : Header.values name d.headers = [] := by
  have hempty : ∀ value, Header.values name [("authorization", value)] = [] := by
    intro value
    simp [Header.values, hname.symm]
  obtain ⟨u, -, h⟩ := Option.bind_eq_some_iff.1 h
  split at h
  · cases h
    rfl
  · split at h
    · cases h
      exact hempty _
    · cases h
      rfl

/-- **A lookup carries what its client sends along**, whoever its address names, and besides at most
the name of the client. -/
theorem values_lookupRequest {c : Client} {method : Method} {address body : String}
    {token : Option String} {q : Request}
    (hq : c.lookupRequest method address body token = .ok q) {name : String}
    (hname : name ∉ reserved) :
    Header.values name q.headers =
      if name = "user-agent" ∧ Header.values name c.headers = [] then c.agent.toList
      else Header.values name c.headers := by
  obtain ⟨d, d', hd, hauth, hfinished⟩ := lookupRequest_ok hq
  have hheaders : d'.headers =
      d.headers ++ c.ownHeaders method (authorization token c.credentials) := by
    rw [authorize_ok hauth, ownHeaders]
    simp [lookupHeaders]
  have hown : ∀ n, Header.values n d'.headers = Header.values n d.headers ++
      (Header.values n c.headers ++ ownValues method (authorization token c.credentials) n) := by
    intro n
    rw [hheaders, Header.values_append, values_ownHeaders]
  have hsent : Header.values name d'.headers = Header.values name c.headers := by
    have hne : name ≠ "authorization" := by
      rintro rfl
      exact hname (by decide)
    rw [hown, values_draft? hd hne, ownValues_eq_nil hname, List.append_nil, List.nil_append]
  have haccept : Header.values "accept" d'.headers ≠ [] := by
    rw [hown]
    simp [ownValues]
  rw [finished] at hfinished
  split at hfinished
  · cases hfinished
    show Header.values name (c.withDefaults d'.headers) = _
    rw [values_withDefaults_lookup c haccept, hsent]
  · cases hfinished

/-- What a call looks up is looked up by its client. -/
theorem looksUp_of_mem_turn {c : Client} {s : Session} {call : Call} {x : Request × Reply}
    (hx : x ∈ (s.turn c call).journal.lookupTraffic) : c.LooksUp x.1 := by
  obtain ⟨method, address, body, token, hparts, hq, -⟩ :=
    (Session.course_turn s c call).request_of_mem hx
  exact ⟨call, (method, address, body), token, hparts, hq⟩

end Client

/-! ## Programs that aim clients -/

/-- A program: the clients that it has, in the order in which it got them, and what they have done
together. -/
structure Fleet where
  clients : List Client
  session : Session

namespace Fleet

/-- What a program does with one of its clients. -/
inductive Deed where
  | aim (number : Nat) (t : Target)
  | call (number : Nat) (call : Call)

/-- A program that has one client. -/
def start (c : Client) (w : World) : Fleet := ⟨[c], .start w⟩

/-- The program after a deed. Where a client cannot be aimed, there is none more. -/
def next (f : Fleet) : Deed → Fleet
  | .aim number t =>
    match f.clients[number]?.bind fun c => (c.aimedAt t).toOption with
    | some c => { f with clients := f.clients ++ [c] }
    | none => f
  | .call number call =>
    match f.clients[number]? with
    | some c => { f with session := f.session.next c call }
    | none => f

/-- The program after further deeds. -/
def after (f : Fleet) (deeds : List Deed) : Fleet :=
  deeds.foldl next f

/-- A client is still there, and what it looks up goes below its own address, with its own headers
and besides at most with its name. -/
structure Keeps (f : Fleet) (number : Nat) (c : Client) : Prop where
  there : f.clients[number]? = some c
  below : ∀ call, ∀ x ∈ (f.session.turn c call).journal.lookupTraffic,
    x.1.IsBelow c.baseUrl c.credentials
  headers : ∀ call, ∀ x ∈ (f.session.turn c call).journal.lookupTraffic,
    ∀ name, name ∉ Client.reserved → Header.values name x.1.headers =
      if name = "user-agent" ∧ Header.values name c.headers = [] then c.agent.toList
      else Header.values name c.headers

/-- A deed adds a client at most, and leaves the others as they are. -/
theorem clients_prefix_next (f : Fleet) (deed : Deed) : f.clients <+: (f.next deed).clients := by
  cases deed with
  | aim number t =>
      rw [next]
      split
      · exact List.prefix_append _ _
      · exact List.prefix_refl _
  | call number call =>
      rw [next]
      split
      · exact List.prefix_refl _
      · exact List.prefix_refl _

theorem clients_prefix_after (f : Fleet) (deeds : List Deed) :
    f.clients <+: (f.after deeds).clients := by
  induction deeds generalizing f with
  | nil => exact List.prefix_refl _
  | cons deed deeds ih => exact (f.clients_prefix_next deed).trans (ih (f.next deed))

/-- **A client stays as it is, whatever is done.** -/
theorem keeps_after {f : Fleet} {number : Nat} {c : Client} (h : f.clients[number]? = some c)
    (deeds : List Deed) : (f.after deeds).Keeps number c where
  there := by
    obtain ⟨more, hmore⟩ := f.clients_prefix_after deeds
    rw [← hmore, List.getElem?_append_left (List.getElem?_eq_some_iff.1 h).1, h]
  below call x hx := (Client.looksUp_of_mem_turn hx).isBelow
  headers call x hx name hname := by
    obtain ⟨call, parts, token, -, hq⟩ := Client.looksUp_of_mem_turn hx
    exact Client.values_lookupRequest hq hname

end Fleet

namespace Client

/-- **Targets compose.** Aiming a client at one target and then at another comes to the same as
aiming it once at the host of the second, or else of the first, with the headers of both: either
there is the same client, or the same error, that of the first header that is refused. The client
itself stays as it is: whatever a program makes of it and calls, what it looks up goes below its own
address with its own headers. -/
theorem targets_compose (c : Client) (t t' : Target) :
    c.Composes t t' ∧
      ∀ (w : World) (deeds : List Fleet.Deed), ((Fleet.start c w).after deeds).Keeps 0 c :=
  ⟨c.composes t t', fun _ deeds => Fleet.keeps_after rfl deeds⟩

/-- A header is set over one with another case, and the host of the first target stays. A target
with a header that is refused adds no client, and the first client sends to its own host as
before. -/
theorem targets_compose_folded :
    let c := plain "http://[::1]/scim/" (.basic "id" "secret")
    let t : Target := ⟨some "http://[::2]//", [("X-Tenant", "a")]⟩
    let t' : Target := ⟨none, [("x-tenant", "b")]⟩
    let refused : Target := ⟨some "http://[::3]", [("X-Tenant", "c"), ("Host", "d"), ("", "e")]⟩
    let f := (Fleet.start c (.fresh (fun _ => true) fun _ => 0)).after
      [.aim 0 t, .aim 1 t', .aim 0 refused, .call 2 (.getUser "1")]
    (c.aimedAt t >>= fun c' => c'.aimedAt t') =
        .ok ⟨"http://[::2]", .basic "id" "secret", none, none, [("x-tenant", "b")]⟩ ∧
      (c.aimedAt t >>= fun c' => c'.aimedAt refused) = .error (.invalidHeader "Host" .reserved) ∧
      f.clients.length = 3 ∧
      (f.session.turn c (.getUser "1")).journal.lookupTraffic.length = 1 ∧
      ∀ x ∈ (f.session.turn c (.getUser "1")).journal.lookupTraffic,
        x.1.IsBelow "http://[::1]/scim" (.basic "id" "secret") ∧
          Header.values "x-tenant" x.1.headers = [] := by
  intro c t t' refused f
  obtain ⟨hcomposes, hkeeps⟩ := targets_compose c t t'
  have hstays := hkeeps (.fresh (fun _ => true) fun _ => 0)
    [.aim 0 t, .aim 1 t', .aim 0 refused, .call 2 (.getUser "1")]
  refine ⟨?_, ?_, by decide +kernel, by decide +kernel, fun x hx => ⟨?_, ?_⟩⟩
  · rw [hcomposes.outcome_eq]
    rfl
  · rw [(targets_compose c t refused).1.outcome_eq]
    rfl
  · exact hstays.below _ x hx
  · exact hstays.headers _ x hx "x-tenant" (by decide)

end Client

end ScimLookup
