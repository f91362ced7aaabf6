import ScimLookup.Proofs.Url.Host
import ScimLookup.Url.Basic

/-!
# Addresses below another

What a text reads as when it is an address, a slash and something more. The slash ends the authority
wherever it stands, so what is put behind it comes to the path, the query and the fragment, and to
nothing else: either no such text is an address, or each of them is one at the server of the first
(`parse?_below`). There are none where the first address ends in a blank, which then becomes a part
of its host or of its port.
-/

set_option autoImplicit false

namespace ScimLookup

/-! ## Stretches of a text -/

namespace Text

variable {p : Char → Bool} {e : Char} {xs : List Char}

theorem takeWhile_stop (he : p e = false) (xs ys : List Char) :
    (xs ++ e :: ys).takeWhile p = xs.takeWhile p := by
  induction xs with
  | nil => rw [List.nil_append, List.takeWhile_cons, he]; rfl
  | cons x xs ih =>
      rw [List.cons_append, List.takeWhile_cons, List.takeWhile_cons, ih]

theorem dropWhile_stop (he : p e = false) (xs ys : List Char) :
    (xs ++ e :: ys).dropWhile p = xs.dropWhile p ++ e :: ys := by
  induction xs with
  | nil => rw [List.nil_append, List.dropWhile_cons, he]; rfl
  | cons x xs ih =>
      rw [List.cons_append, List.dropWhile_cons, List.dropWhile_cons, ih]
      split <;> rfl

theorem takeWhile_eq_self (h : ∀ x ∈ xs, p x = true) : xs.takeWhile p = xs := by
  induction xs with
  | nil => rfl
  | cons x xs ih =>
      rw [List.takeWhile_cons_of_pos (h x List.mem_cons_self),
        ih fun y hy => h y (List.mem_cons_of_mem x hy)]

theorem dropEndWhile_stop (he : p e = false) (xs ys : List Char) :
    dropEndWhile p (xs ++ e :: ys) = xs ++ e :: dropEndWhile p ys := by
  simp only [dropEndWhile, List.reverse_append, List.reverse_cons, List.append_assoc,
    List.singleton_append]
  rw [dropWhile_stop he]
  simp

theorem dropEndWhile_concat (p : Char → Bool) (xs : List Char) (e : Char) :
    dropEndWhile p (xs ++ [e]) = if p e = true then dropEndWhile p xs else xs ++ [e] := by
  rw [dropEndWhile, List.reverse_append, List.reverse_singleton, List.singleton_append,
    List.dropWhile_cons]
  split
  · rfl
  · simp

theorem dropEndWhile_sublist (p : Char → Bool) (xs : List Char) :
    (dropEndWhile p xs).Sublist xs := by
  have hreverse := (List.dropWhile_sublist p (l := xs.reverse)).reverse
  rwa [List.reverse_reverse] at hreverse

/-- What is dropped at the end is a stretch of its own. -/
theorem dropEndWhile_append (p : Char → Bool) (xs : List Char) :
    ∃ ys, xs = dropEndWhile p xs ++ ys ∧ ∀ y ∈ ys, p y = true := by
  refine ⟨(xs.reverse.takeWhile p).reverse, ?_, ?_⟩
  · rw [dropEndWhile, ← List.reverse_append, List.takeWhile_append_dropWhile, List.reverse_reverse]
  · intro y hy
    exact List.all_eq_true.1 List.all_takeWhile y (List.mem_reverse.1 hy)

end Text

namespace Url

/-! ## Servers -/

/-- Where requests to an address go, and the user and the password that it names for them. -/
structure Server where
  scheme : String
  username : String
  password : Option String
  host : Option Host
  port : Option Nat
deriving DecidableEq, Repr

/-- The server of an address. -/
def server (u : Url) : Server :=
  ⟨u.scheme, u.username, u.password, u.host, u.port⟩

/-- The address that an authority makes with what follows it. -/
def placed (scheme : String) (a : Authority) (rest : List Char) : Url :=
  let special := isServerScheme scheme
  let tail := rest.dropWhile (!endsPath ·)
  { scheme, username := a.username, password := a.password, host := a.host, hasAuthority := true
    port := a.port
    path := .segments (pathAfter special (rest.takeWhile (!endsPath ·)))
    query := queryOf special tail, fragment := fragmentOf tail }

theorem server_placed (scheme : String) (a : Authority) (rest : List Char) :
    (placed scheme a rest).server = ⟨scheme, a.username, a.password, a.host, a.port⟩ :=
  rfl

theorem withAuthority?_eq (scheme : String) (cs : List Char) :
    withAuthority? scheme cs =
      (authority? scheme (!(cs.dropWhile (!endsAuthority (isServerScheme scheme) ·)).isEmpty)
        (cs.takeWhile (!endsAuthority (isServerScheme scheme) ·))).map fun a =>
          placed scheme a (a.rest ++ cs.dropWhile (!endsAuthority (isServerScheme scheme) ·)) := by
  rw [withAuthority?]
  cases authority? scheme (!(cs.dropWhile (!endsAuthority (isServerScheme scheme) ·)).isEmpty)
    (cs.takeWhile (!endsAuthority (isServerScheme scheme) ·)) with
  | none => rfl
  | some a => rfl

/-! ## Authorities -/

/-- An authority whose scheme names servers has a host, so what follows it makes no difference. -/
theorem authority?_following {scheme : String} (hs : isServerScheme scheme = true)
    (f g : Bool) (cs : List Char) : authority? scheme f cs = authority? scheme g cs := by
  simp only [authority?, hs, hostFor?, if_true]
  cases Host.ofServer? (List.take (hostLength false ((splitUser cs).getD ([], cs)).2)
    ((splitUser cs).getD ([], cs)).2) with
  | none => rfl
  | some h => rfl

/-- A host comes to its end at a colon. -/
theorem drop_hostLength (inside : Bool) (cs : List Char) :
    cs.drop (hostLength inside cs) = [] ∨
      ∃ rest, cs.drop (hostLength inside cs) = ':' :: rest := by
  induction cs generalizing inside with
  | nil => exact Or.inl rfl
  | cons c cs ih =>
      rw [hostLength]
      split
      · rename_i h
        exact Or.inr ⟨cs, by rw [h.1]; rfl⟩
      · exact ih _

/-- A blank at the end stays there when the user is split off. -/
theorem splitUser_append {e : Char} (he : e ≠ '@') (cs : List Char) :
    ∃ ds, ((splitUser (cs ++ [e])).getD ([], cs ++ [e])).2 = ds ++ [e] ∧ ∀ c ∈ ds, c ∈ cs := by
  by_cases hmem : '@' ∈ cs ++ [e]
  · have hrev : (cs ++ [e]).reverse.takeWhile (· ≠ '@') = e :: cs.reverse.takeWhile (· ≠ '@') := by
      rw [List.reverse_append, List.reverse_singleton, List.singleton_append,
        List.takeWhile_cons_of_pos (by simpa using he)]
    refine ⟨(cs.reverse.takeWhile (· ≠ '@')).reverse, ?_, ?_⟩
    · rw [splitUser, if_pos (List.contains_iff_mem.2 hmem), Option.getD_some]
      dsimp only
      rw [hrev, List.reverse_cons]
    · intro c hc
      exact List.mem_reverse.1 ((List.takeWhile_sublist _).subset (List.mem_reverse.1 hc))
  · refine ⟨cs, ?_, fun c hc => hc⟩
    rw [splitUser, if_neg (by simpa using hmem), Option.getD_none]

/-- What follows the digits of a port may not end in a blank. -/
theorem port?_append {scheme : String} {e : Char} (he : Decimal.isDigit e = false)
    {cs : List Char} (hcs : '\\' ∉ cs ++ [e]) : port? scheme (cs ++ [e]) = none := by
  have hrest : (cs ++ [e]).dropWhile Decimal.isDigit = cs.dropWhile Decimal.isDigit ++ [e] :=
    Text.dropWhile_stop he cs []
  have hne : (cs ++ [e]).dropWhile Decimal.isDigit ≠ [] := by
    rw [hrest]
    simp
  have hhead : ((cs ++ [e]).dropWhile Decimal.isDigit).head? ≠ some '\\' := by
    intro h
    exact hcs ((List.dropWhile_sublist _).subset (List.mem_of_mem_head? h))
  rw [port?]
  simp [hne, hhead]

/-- **No authority of a scheme that names servers ends in a blank.** -/
theorem authority?_append {scheme : String} (hs : isServerScheme scheme = true) {e : Char}
    (he : e.toNat ≤ 0x20) {cs : List Char} (hcs : '\\' ∉ cs ++ [e]) (f : Bool) :
    authority? scheme f (cs ++ [e]) = none := by
  have hdigit : Decimal.isDigit e = false := by
    rw [Decimal.isDigit]
    simp
    omega
  have hat : e ≠ '@' := by
    rintro rfl
    exact absurd he (by decide)
  have hcolon : e ≠ ':' := by
    rintro rfl
    exact absurd he (by decide)
  obtain ⟨ds, hserver, hds⟩ := splitUser_append hat cs
  simp only [authority?, hs, hostFor?, if_true, hserver]
  rcases drop_hostLength false (ds ++ [e]) with hnil | ⟨rest, hrest⟩
  · -- The host goes on to the end.
    have hall : (ds ++ [e]).take (hostLength false (ds ++ [e])) = ds ++ [e] := by
      have hsplit := List.take_append_drop (hostLength false (ds ++ [e])) (ds ++ [e])
      rwa [hnil, List.append_nil] at hsplit
    rw [hall, Host.ofServer?_append he]
    rfl
  · -- The blank comes to the port, behind the colon.
    have hsuffix : ':' :: rest <:+ ds ++ [e] := hrest ▸ List.drop_suffix _ _
    rcases List.suffix_concat_iff.1 hsuffix with hnil | ⟨ports, hports, hsuffix⟩
    · cases hnil
    · cases ports with
      | nil => exact absurd (List.cons.inj hports).1.symm hcolon
      | cons p ports =>
          have hport : port? scheme (ports ++ [e]) = none := by
            apply port?_append hdigit
            intro hmem
            apply hcs
            rcases List.mem_append.1 hmem with hmem | hmem
            · exact List.mem_append_left _ (hds _ (hsuffix.subset (List.mem_cons_of_mem p hmem)))
            · exact List.mem_append_right _ hmem
          rw [hrest, (List.cons.inj hports).2]
          cases Host.ofServer? ((ds ++ [e]).take (hostLength false (ds ++ [e]))) with
          | none => rfl
          | some h => simp [hport]

theorem authority?_nil {scheme : String} (hs : isServerScheme scheme = true) (f : Bool) :
    authority? scheme f [] = none := by
  have hserver : (splitUser []).getD ([], []) = ([], []) := rfl
  simp only [authority?, hs, hostFor?, if_true, hserver, List.take_nil, Host.ofServer?_nil]
  rfl

/-- An authority of a scheme that names servers has a host. -/
theorem isSome_host_of_authority? {scheme : String} (hs : isServerScheme scheme = true) {f : Bool}
    {cs : List Char} {a : Authority} (h : authority? scheme f cs = some a) :
    a.host.isSome = true := by
  simp only [authority?, hs, hostFor?, if_true] at h
  obtain ⟨host, hhost, h⟩ := Option.bind_eq_some_iff.1 h
  obtain ⟨name, -, rfl⟩ := Option.map_eq_some_iff.1 hhost
  split at h
  · cases h
  · obtain ⟨⟨port, rest⟩, -, h⟩ := Option.bind_eq_some_iff.1 h
    cases h
    rfl

/-- An authority without an at sign names no user. -/
theorem user_of_authority? {scheme : String} {f : Bool} {cs : List Char} {a : Authority}
    (h : authority? scheme f cs = some a) (hcs : '@' ∉ cs) :
    a.username = "" ∧ a.password = none := by
  have hsplit : splitUser cs = none := by
    rw [splitUser, if_neg]
    simpa using hcs
  simp only [authority?, hsplit, Option.getD_none] at h
  obtain ⟨host, -, h⟩ := Option.bind_eq_some_iff.1 h
  split at h
  · cases h
  · obtain ⟨⟨port, rest⟩, -, h⟩ := Option.bind_eq_some_iff.1 h
    cases h
    exact ⟨rfl, rfl⟩

/-! ## Cleaning -/

/-- What counts of a text at the front of an address. -/
def front (cs : List Char) : List Char :=
  (cs.dropWhile isEdge).filter (!isBreak ·)

/-- What counts of a text at the end of an address. -/
def back (cs : List Char) : List Char :=
  (Text.dropEndWhile isEdge cs).filter (!isBreak ·)

theorem front_sublist (cs : List Char) : (front cs).Sublist cs :=
  List.filter_sublist.trans (List.dropWhile_sublist _)

theorem back_sublist (cs : List Char) : (back cs).Sublist cs :=
  List.filter_sublist.trans (Text.dropEndWhile_sublist isEdge cs)

/-- A text without breaks that does not end in a blank counts as it is. -/
theorem back_eq_self {cs : List Char} (hbreak : ∀ c ∈ cs, isBreak c = false)
    (hedge : cs.getLast?.any isEdge = false) : back cs = cs := by
  have hdrop : Text.dropEndWhile isEdge cs = cs := by
    rcases List.eq_nil_or_concat cs with rfl | ⟨ds, e, rfl⟩
    · rfl
    · rw [List.concat_eq_append, List.getLast?_concat, Option.any_some] at hedge
      rw [List.concat_eq_append, Text.dropEndWhile_concat, hedge]
      rfl
  rw [back, hdrop, List.filter_eq_self]
  intro c hc
  rw [hbreak c hc]
  rfl

theorem facts_of_back_eq_self {cs : List Char} (h : back cs = cs) :
    (∀ c ∈ cs, isBreak c = false) ∧ cs.getLast?.any isEdge = false := by
  have hsub : cs.Sublist (Text.dropEndWhile isEdge cs) := by
    have hfilter : (back cs).Sublist (Text.dropEndWhile isEdge cs) := List.filter_sublist
    rwa [h] at hfilter
  refine ⟨?_, ?_⟩
  · intro c hc
    rw [← h] at hc
    simpa using (List.mem_filter.1 hc).2
  · rcases List.eq_nil_or_concat cs with rfl | ⟨ds, e, rfl⟩
    · rfl
    · rw [List.concat_eq_append] at hsub ⊢
      rw [List.getLast?_concat, Option.any_some]
      cases hedge : isEdge e with
      | false => rfl
      | true =>
          -- A blank at the end would have been dropped, and nothing can make up for it.
          rw [Text.dropEndWhile_concat, if_pos hedge] at hsub
          have hle := hsub.length_le
          have hle' := (Text.dropEndWhile_sublist isEdge ds).length_le
          rw [List.length_append, List.length_singleton] at hle
          omega

theorem back_slash (xs ys : List Char) :
    back (xs ++ '/' :: ys) = xs.filter (!isBreak ·) ++ '/' :: back ys := by
  rw [back, Text.dropEndWhile_stop (by decide), List.filter_append,
    List.filter_cons_of_pos (by decide)]
  rfl

/-- A slash keeps what is before it from what is behind it. -/
theorem cleaned_slash (t y : List Char) :
    cleaned (.ofList (t ++ '/' :: y)) = front t ++ '/' :: back y := by
  have hslash : isEdge '/' = false := by decide
  rw [cleaned, String.toList_ofList, Text.dropWhile_stop hslash, Text.dropEndWhile_stop hslash,
    List.filter_append, List.filter_cons_of_pos (by decide)]
  rfl

/-- What an address loses when it ends are blanks. -/
theorem front_eq_cleaned (t : List Char) :
    ∃ es, front t = cleaned (.ofList t) ++ es ∧ ∀ e ∈ es, e.toNat ≤ 0x20 := by
  obtain ⟨es, hes, hblank⟩ := Text.dropEndWhile_append isEdge (t.dropWhile isEdge)
  refine ⟨es.filter (!isBreak ·), ?_, ?_⟩
  · rw [front, cleaned, String.toList_ofList, ← List.filter_append, ← hes]
  · intro e he
    exact of_decide_eq_true (hblank e ((List.mem_filter.1 he).1))

/-! ## Schemes -/

/-- A scheme is what stands before the first colon, with a letter first. -/
theorem splitScheme_some_iff {cs r : List Char} {scheme : String} :
    splitScheme cs = some (scheme, r) ↔
      cs.head?.any Char.isAlpha = true ∧ cs.dropWhile isSchemeChar = ':' :: r ∧
        scheme = Text.lower (.ofList (cs.takeWhile isSchemeChar)) := by
  cases cs with
  | nil => simp [splitScheme]
  | cons c cs =>
      rw [splitScheme, List.head?_cons, Option.any_some]
      split
      · rename_i hc
        split
        · rename_i rest hrest
          rw [hrest]
          constructor
          · intro h
            cases h
            exact ⟨hc, rfl, rfl⟩
          · rintro ⟨-, hr, rfl⟩
            cases hr
            rfl
        · rename_i hother
          simp only [reduceCtorEq, false_iff, not_and]
          intro _ hcolon
          exact absurd hcolon (hother r)
      · rename_i hc
        simp [hc]

/-- What is put behind an address does not come to its scheme. -/
theorem splitScheme_append {cs r : List Char} {scheme : String}
    (h : splitScheme cs = some (scheme, r)) (ds : List Char) :
    splitScheme (cs ++ ds) = some (scheme, r ++ ds) := by
  obtain ⟨hhead, hrest, rfl⟩ := splitScheme_some_iff.1 h
  have hcolon : isSchemeChar ':' = false := by decide
  have hcs : cs = cs.takeWhile isSchemeChar ++ ':' :: r := by
    rw [← hrest, List.takeWhile_append_dropWhile]
  have hall : (cs.takeWhile isSchemeChar).dropWhile isSchemeChar = [] :=
    (Text.dropWhile_eq_nil_iff _ _).2 (List.all_eq_true.1 List.all_takeWhile)
  refine splitScheme_some_iff.2 ⟨?_, ?_, ?_⟩
  · cases cs with
    | nil => cases hhead
    | cons c cs => exact hhead
  · rw [hcs, List.append_assoc, List.cons_append, Text.dropWhile_stop hcolon, hall]
    rfl
  · rw [hcs, List.append_assoc, List.cons_append, Text.takeWhile_stop hcolon,
      Text.takeWhile_stop hcolon]

/-- The scheme of an address stands before its first slash. -/
theorem splitScheme_slash {x z q : List Char} {scheme : String}
    (h : splitScheme (x ++ '/' :: z) = some (scheme, q)) :
    ∃ r, splitScheme x = some (scheme, r) ∧ q = r ++ '/' :: z := by
  obtain ⟨hhead, hrest, rfl⟩ := splitScheme_some_iff.1 h
  have hslash : isSchemeChar '/' = false := by decide
  rw [Text.dropWhile_stop hslash] at hrest
  cases hx : x.dropWhile isSchemeChar with
  | nil =>
      rw [hx, List.nil_append] at hrest
      exact absurd (List.cons.inj hrest).1 (by decide)
  | cons d r =>
      rw [hx, List.cons_append] at hrest
      obtain ⟨rfl, rfl⟩ := List.cons.inj hrest
      refine ⟨r, splitScheme_some_iff.2 ⟨?_, hx, ?_⟩, rfl⟩
      · cases x with
        | nil => cases hx
        | cons c cs => exact hhead
      · rw [Text.takeWhile_stop hslash]

/-! ## Reading -/

/-- An address of the web names its server behind its scheme. -/
theorem parse?_web {s : String} {u : Url} (h : parse? s = some u) (hweb : u.isWeb = true) :
    ∃ rest, splitScheme (cleaned s) = some (u.scheme, rest) ∧ isServerScheme u.scheme = true ∧
      withAuthority? u.scheme (rest.dropWhile (isSlash true)) = some u := by
  have hserver : isServerScheme u.scheme = true := by
    rw [isWeb, Bool.or_eq_true, decide_eq_true_iff, decide_eq_true_iff] at hweb
    rcases hweb with h | h
    · rw [h]
      decide
    · rw [h]
      decide
  obtain ⟨⟨scheme, rest⟩, hsplit, h⟩ := Option.bind_eq_some_iff.1 h
  dsimp only at h
  split at h
  · have hscheme : u.scheme = scheme := by
      rw [withAuthority?_eq] at h
      obtain ⟨a, -, rfl⟩ := Option.map_eq_some_iff.1 h
      rfl
    subst hscheme
    exact ⟨rest, hsplit, hserver, h⟩
  · rename_i hscheme
    -- No other kind of address has a scheme of the web.
    have hsame : u.scheme = scheme := by
      split at h
      · rename_i hfile
        obtain ⟨⟨host, path⟩, -, h⟩ := Option.bind_eq_some_iff.1 h
        cases h
        exact hfile.symm
      · split at h
        · rw [withAuthority?_eq] at h
          obtain ⟨a, -, rfl⟩ := Option.map_eq_some_iff.1 h
          rfl
        · cases h
          rfl
    rw [← hsame] at hscheme
    exact absurd hserver hscheme

/-- The authority behind a scheme that names servers. -/
def authorityPart (rest : List Char) : List Char :=
  (rest.dropWhile (isSlash true)).takeWhile (!endsAuthority true ·)

/-- What follows the authority behind a scheme that names servers. -/
def behindAuthority (rest : List Char) : List Char :=
  (rest.dropWhile (isSlash true)).dropWhile (!endsAuthority true ·)

theorem endsAuthority_of_le {e : Char} (he : e.toNat ≤ 0x20) : endsAuthority true e = false := by
  have hne : ∀ c : Char, 0x20 < c.toNat → e ≠ c := by
    rintro c hc rfl
    omega
  simp [endsAuthority, isSlash, endsPath, hne '/' (by decide), hne '\\' (by decide),
    hne '?' (by decide), hne '#' (by decide)]

theorem not_mem_authorityPart {c : Char} (hc : endsAuthority true c = true) (rest : List Char) :
    c ∉ authorityPart rest := by
  intro h
  have hall := List.all_eq_true.1 List.all_takeWhile c h
  rw [hc] at hall
  cases hall

theorem withAuthority?_server {scheme : String} (hs : isServerScheme scheme = true)
    (rest : List Char) :
    withAuthority? scheme (rest.dropWhile (isSlash true)) =
      (authority? scheme true (authorityPart rest)).map fun a =>
        placed scheme a (a.rest ++ behindAuthority rest) := by
  rw [withAuthority?_eq, hs, authority?_following hs _ true]
  rfl

/-- An address of the web has a host. -/
theorem isSome_host {s : String} {u : Url} (h : parse? s = some u) (hweb : u.isWeb = true) :
    u.host.isSome = true := by
  obtain ⟨rest, -, hserver, hu⟩ := parse?_web h hweb
  rw [withAuthority?_server hserver] at hu
  obtain ⟨a, ha, hplaced⟩ := Option.map_eq_some_iff.1 hu
  have hhost : a.host = u.host := congrArg Url.host hplaced
  rw [← hhost]
  exact isSome_host_of_authority? hserver ha

/-- A slash ends the authority, unless it is one of those in front of it. -/
theorem parts_slash {rest : List Char} (hrest : rest.dropWhile (isSlash true) ≠ [])
    (z : List Char) :
    authorityPart (rest ++ '/' :: z) = authorityPart rest ∧
      behindAuthority (rest ++ '/' :: z) = behindAuthority rest ++ '/' :: z := by
  have hends : (!endsAuthority true '/') = false := by decide
  have hdrop : (rest ++ '/' :: z).dropWhile (isSlash true) =
      rest.dropWhile (isSlash true) ++ '/' :: z := by
    rw [List.dropWhile_append, if_neg]
    simpa using hrest
  rw [authorityPart, behindAuthority, hdrop]
  exact ⟨Text.takeWhile_stop hends _ z, Text.dropWhile_stop hends _ z⟩

/-- Blanks stand behind the end of the authority, or come to it, which then ends in one. -/
theorem authorityPart_blanks (rest : List Char) {es : List Char}
    (hes : ∀ e ∈ es, e.toNat ≤ 0x20) :
    authorityPart (rest ++ es) = authorityPart rest ∨
      ∃ ds e, authorityPart (rest ++ es) = ds ++ [e] ∧ e.toNat ≤ 0x20 := by
  have hall : ∀ e ∈ es, (!endsAuthority true e) = true := fun e he => by
    rw [endsAuthority_of_le (hes e he)]
    rfl
  rcases List.eq_nil_or_concat es with rfl | ⟨ds, e, rfl⟩
  · exact Or.inl (by rw [List.append_nil])
  · have he : e.toNat ≤ 0x20 := hes e (by simp)
    rw [List.concat_eq_append] at hall ⊢
    rw [authorityPart, authorityPart, List.dropWhile_append]
    split
    · -- Nothing but slashes stands before the blanks, and these are no slashes.
      have hslash : ∀ d ∈ ds ++ [e], isSlash true d = false := by
        intro d hd
        have hends := hall d hd
        rw [endsAuthority, Bool.not_eq_true', Bool.or_eq_false_iff] at hends
        exact hends.1
      have hdrop : (ds ++ [e]).dropWhile (isSlash true) = ds ++ [e] := by
        cases ds with
        | nil => exact List.dropWhile_cons_of_neg (by simp [hslash e (by simp)])
        | cons d ds => exact List.dropWhile_cons_of_neg (by simp [hslash d (by simp)])
      rw [hdrop, Text.takeWhile_eq_self hall]
      exact Or.inr ⟨ds, e, rfl, he⟩
    · rw [List.takeWhile_append]
      split
      · rw [Text.takeWhile_eq_self hall, ← List.append_assoc]
        exact Or.inr ⟨_, e, rfl, he⟩
      · exact Or.inl rfl

/-! ## Addresses below another -/

/-- The text is the address without slashes at its end. -/
def EndsBefore (t : List Char) (s : String) : Prop :=
  ∃ slashes, s.toList = t ++ slashes ∧ ∀ c ∈ slashes, c = '/'

/-- What stands behind the scheme of an address of the web, and of what is put below it: the
authority is the same for both, or ends in a blank. -/
theorem exists_rest {s : String} {u : Url} (h : parse? s = some u) (hweb : u.isWeb = true)
    {t : List Char} (ht : EndsBefore t s) :
    ∃ rest, splitScheme (front t) = some (u.scheme, rest) ∧ rest.dropWhile (isSlash true) ≠ [] ∧
      ((∃ d, (authority? u.scheme true (authorityPart rest)).map
          (fun a => placed u.scheme a (a.rest ++ d)) = some u) ∨
        ∃ ds e, authorityPart rest = ds ++ [e] ∧ e.toNat ≤ 0x20) := by
  obtain ⟨q, hsplit, hserver, hu⟩ := parse?_web h hweb
  rw [withAuthority?_server hserver] at hu
  have hq : q.dropWhile (isSlash true) ≠ [] := by
    intro hnil
    rw [authorityPart, hnil, List.takeWhile_nil, authority?_nil hserver] at hu
    cases hu
  obtain ⟨slashes, hs, hslashes⟩ := ht
  cases slashes with
  | nil =>
      -- The address has no slash at its end, but may lose blanks there.
      obtain ⟨es, hfront, hes⟩ := front_eq_cleaned t
      rw [← List.append_nil t, ← hs, String.ofList_toList] at hfront
      rw [List.append_nil] at hs
      have hdrop : (q ++ es).dropWhile (isSlash true) ≠ [] := by
        rw [List.dropWhile_append, if_neg (by simpa using hq)]
        exact List.append_ne_nil_of_left_ne_nil hq es
      refine ⟨q ++ es, ?_, hdrop, ?_⟩
      · rw [← hs, hfront]
        exact splitScheme_append hsplit es
      · exact (authorityPart_blanks _ hes).imp_left fun hsame =>
          ⟨behindAuthority q, by rw [hsame, hu]⟩
  | cons c slashes =>
      -- The first slash at the end is the one behind which more is put.
      rw [hslashes c List.mem_cons_self] at hs
      rw [← String.ofList_toList (s := s), hs, cleaned_slash] at hsplit
      obtain ⟨r, hr, rfl⟩ := splitScheme_slash hsplit
      have hdrop : r.dropWhile (isSlash true) ≠ [] := by
        intro hnil
        apply hq
        refine (Text.dropWhile_eq_nil_iff _ _).2 fun d hd => ?_
        rcases List.mem_append.1 hd with hd | hd
        · exact (Text.dropWhile_eq_nil_iff _ _).1 hnil d hd
        · have hslash : d = '/' := by
            rcases List.mem_cons.1 hd with hd | hd
            · exact hd
            · exact hslashes d (List.mem_cons_of_mem c ((back_sublist slashes).subset hd))
          rw [hslash]
          rfl
      refine ⟨r, hr, hdrop, Or.inl ⟨behindAuthority (r ++ '/' :: back slashes), ?_⟩⟩
      rw [← (parts_slash hdrop (back slashes)).1]
      exact hu

/-- **Either nothing below an address of the web is an address, or everything is one at its
server.** -/
theorem parse?_below {s : String} {u : Url} (h : parse? s = some u) (hweb : u.isWeb = true)
    {t : List Char} (ht : EndsBefore t s) :
    (∀ y : List Char, parse? (.ofList (t ++ '/' :: y)) = none) ∨
      ∃ a d, (placed u.scheme a []).server = u.server ∧ ∀ y : List Char,
        parse? (.ofList (t ++ '/' :: y)) = some (placed u.scheme a (d ++ '/' :: back y)) := by
  obtain ⟨-, -, hserver, -⟩ := parse?_web h hweb
  obtain ⟨rest, hfront, hrest, hcases⟩ := exists_rest h hweb ht
  have hread : ∀ y : List Char, parse? (.ofList (t ++ '/' :: y)) =
      (authority? u.scheme true (authorityPart rest)).map fun a =>
        placed u.scheme a (a.rest ++ behindAuthority rest ++ '/' :: back y) := by
    intro y
    obtain ⟨hpart, hbehind⟩ := parts_slash hrest (back y)
    rw [parse?, cleaned_slash, splitScheme_append hfront]
    simp only [Option.bind_eq_bind, Option.bind_some, hserver, if_true]
    rw [withAuthority?_server hserver, hpart, hbehind]
    simp only [List.append_assoc]
  rcases hcases with ⟨d, hu⟩ | ⟨ds, e, hpart, he⟩
  · obtain ⟨a, ha, hplaced⟩ := Option.map_eq_some_iff.1 hu
    have hsame : (placed u.scheme a []).server = u.server := by
      have hserver := congrArg server hplaced
      rwa [server_placed] at hserver
    refine Or.inr ⟨a, a.rest ++ behindAuthority rest, hsame, fun y => ?_⟩
    rw [hread]
    exact congrArg (Option.map _) ha
  · have hback : '\\' ∉ ds ++ [e] := by
      rw [← hpart]
      exact not_mem_authorityPart (by decide) rest
    refine Or.inl fun y => ?_
    rw [hread, hpart, authority?_append hserver he hback]
    rfl

/-- Blanks at the end of an address do not come to its scheme. -/
theorem splitScheme_blanks {cs es r : List Char} {scheme : String}
    (h : splitScheme (cs ++ es) = some (scheme, r)) (hes : ∀ e ∈ es, e.toNat ≤ 0x20) :
    ∃ q, splitScheme cs = some (scheme, q) ∧ r = q ++ es := by
  obtain ⟨hhead, hrest, rfl⟩ := splitScheme_some_iff.1 h
  have hblank : ∀ n < 0x21, isSchemeChar (Char.ofNat n) = false := by decide
  cases hcs : cs.dropWhile isSchemeChar with
  | nil =>
      -- The colon would be one of the blanks.
      rw [List.dropWhile_append, hcs, List.isEmpty_nil, if_pos rfl] at hrest
      cases es with
      | nil => cases hrest
      | cons e es =>
          have hle := hes e List.mem_cons_self
          have hstop := hblank e.toNat (by omega)
          rw [Char.ofNat_toNat] at hstop
          rw [List.dropWhile_cons_of_neg (by simp [hstop])] at hrest
          rw [(List.cons.inj hrest).1] at hle
          exact absurd hle (by decide)
  | cons d q =>
      have hdrop : (cs ++ es).dropWhile isSchemeChar = d :: q ++ es := by
        rw [List.dropWhile_append, hcs, if_neg (by simp)]
      rw [hdrop, List.cons_append] at hrest
      obtain ⟨rfl, rfl⟩ := List.cons.inj hrest
      have hne : cs ≠ [] := by
        rintro rfl
        cases hcs
      have hall : cs = cs.takeWhile isSchemeChar ++ ':' :: q := by
        rw [← hcs, List.takeWhile_append_dropWhile]
      refine ⟨q, splitScheme_some_iff.2 ⟨?_, hcs, ?_⟩, rfl⟩
      · cases cs with
        | nil => exact absurd rfl hne
        | cons c cs => exact hhead
      · rw [hall, List.append_assoc, List.cons_append, Text.takeWhile_stop (by decide),
          Text.takeWhile_stop (by decide)]

/-- **What is below an address of the web has its server**, unless nothing but slashes stands behind
its scheme: then the server is what comes first below it. -/
theorem server_below {t y : List Char} {u : Url} (h : parse? (.ofList (t ++ '/' :: y)) = some u)
    (hweb : u.isWeb = true) :
    (∃ base, parse? (.ofList t) = some base ∧ base.server = u.server) ∨
      ∃ d, (authority? u.scheme true (authorityPart (back y))).map
        (fun a => placed u.scheme a (a.rest ++ d)) = some u := by
  obtain ⟨q, hsplit, hserver, hu⟩ := parse?_web h hweb
  rw [cleaned_slash] at hsplit
  obtain ⟨r, hr, rfl⟩ := splitScheme_slash hsplit
  rw [withAuthority?_server hserver] at hu
  by_cases hslashes : r.dropWhile (isSlash true) = []
  · have hdrop : (r ++ '/' :: back y).dropWhile (isSlash true) =
        (back y).dropWhile (isSlash true) := by
      rw [List.dropWhile_append, hslashes]
      rfl
    have hpart : authorityPart (r ++ '/' :: back y) = authorityPart (back y) := by
      rw [authorityPart, authorityPart, hdrop]
    rw [hpart] at hu
    exact Or.inr ⟨_, hu⟩
  · rw [(parts_slash hslashes (back y)).1] at hu
    obtain ⟨a, ha, hplaced⟩ := Option.map_eq_some_iff.1 hu
    obtain ⟨es, hfront, hes⟩ := front_eq_cleaned t
    rw [hfront] at hr
    obtain ⟨q, hq, rfl⟩ := splitScheme_blanks hr hes
    -- Blanks cannot have come to the authority, as it could not be read then.
    rcases authorityPart_blanks q hes with hsame | ⟨ds, e, hpart, he⟩
    · refine Or.inl ⟨placed u.scheme a (a.rest ++ behindAuthority q), ?_, ?_⟩
      · rw [parse?, hq]
        simp only [Option.bind_eq_bind, Option.bind_some, hserver, if_true]
        rw [withAuthority?_server hserver, ← hsame, ha]
        rfl
      · rw [server_placed, ← server_placed _ _ (a.rest ++ _), hplaced]
    · have hback : '\\' ∉ ds ++ [e] := by
        rw [← hpart]
        exact not_mem_authorityPart (by decide) _
      rw [hpart, authority?_append hserver he hback] at ha
      cases ha

end Url

end ScimLookup
