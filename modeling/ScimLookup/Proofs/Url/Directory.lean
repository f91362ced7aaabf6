import ScimLookup.Proofs.Url.Below

/-!
# Addresses in a directory

What a text reads as that is put behind an address with a slash at its end, where that address has
no query and no fragment. The path of the address then ends in an empty segment, and the text is
read like a reference from there (`parse?_inDirectory`): its segments are followed from those of the
address on, a question mark in it opens the query, and a hash the fragment. The segments before a
slash can be followed first, and those behind it from where they lead (`follow_append`).
-/

set_option autoImplicit false

namespace ScimLookup.Url

/-! ## Segments -/

/-- Follow a segment behind which others come. -/
def enter (done : List String) (s : String) : List String :=
  if isAbove s then above done else if isHere s then done else done ++ [s]

theorem follow_cons (done : List String) (s : String) {ss : List String} (h : ss ≠ []) :
    follow done (s :: ss) = follow (enter done s) ss := by
  cases ss with
  | nil => exact absurd rfl h
  | cons t ts =>
      rw [follow.eq_3 done s (t :: ts) h, enter]
      split
      · rfl
      · split <;> rfl

/-- Segments are followed one after the other. -/
theorem follow_append (done ss : List String) {ts : List String} (h : ts ≠ []) :
    follow done (ss ++ ts) = follow (ss.foldl enter done) ts := by
  induction ss generalizing done with
  | nil => rfl
  | cons s ss ih =>
      rw [List.cons_append, follow_cons done s (List.append_ne_nil_of_right_ne_nil ss h), ih]
      rfl

theorem follow_plain {s : String} (done : List String) (hhere : isHere s = false)
    (habove : isAbove s = false) : follow done [s] = done ++ [s] := by
  simp [follow, hhere, habove]

theorem pathPieces_ne_nil (special : Bool) (cs : List Char) : pathPieces special cs ≠ [] := by
  cases cs with
  | nil => simp [pathPieces]
  | cons c cs =>
      rw [pathPieces]
      split
      · simp
      · split <;> simp

theorem map_pathPieces_ne_nil (special : Bool) (cs : List Char) :
    (pathPieces special cs).map segmentText ≠ [] := fun hnil =>
  pathPieces_ne_nil special cs (List.map_eq_nil_iff.1 hnil)

/-- A slash cuts a path. -/
theorem pathPieces_append {special : Bool} {c : Char} (hc : isSlash special c = true)
    (xs ys : List Char) :
    pathPieces special (xs ++ c :: ys) = pathPieces special xs ++ pathPieces special ys := by
  induction xs with
  | nil =>
      rw [List.nil_append, pathPieces.eq_2, pathPieces.eq_1]
      cases h : pathPieces special ys with
      | nil => exact absurd h (pathPieces_ne_nil special ys)
      | cons p ps => exact if_pos hc
  | cons x xs ih =>
      rw [List.cons_append, pathPieces, pathPieces, ih]
      cases h : pathPieces special xs with
      | nil => exact absurd h (pathPieces_ne_nil special xs)
      | cons p ps =>
          simp only [List.cons_append]
          split <;> rfl

theorem pathPieces_of_not_mem {special : Bool} {cs : List Char}
    (h : ∀ c ∈ cs, isSlash special c = false) : pathPieces special cs = [cs] := by
  induction cs with
  | nil => rfl
  | cons c cs ih =>
      rw [pathPieces, ih fun d hd => h d (List.mem_cons_of_mem c hd)]
      simp [h c List.mem_cons_self]

/-! ## Queries and fragments -/

/-- Without a query and a fragment all of an address is path. -/
theorem all_path_of_none {special : Bool} {cs : List Char}
    (hquery : queryOf special (cs.dropWhile (!endsPath ·)) = none)
    (hfragment : fragmentOf (cs.dropWhile (!endsPath ·)) = none) :
    ∀ c ∈ cs, endsPath c = false := by
  cases htail : cs.dropWhile (!endsPath ·) with
  | nil =>
      intro c hc
      simpa using (Text.dropWhile_eq_nil_iff _ _).1 htail c hc
  | cons d ds =>
      -- What is left starts with one of the two characters that open the rest.
      have hd : endsPath d = true := by
        have hhead := List.head?_dropWhile_not (!endsPath ·) cs
        rw [htail] at hhead
        simpa using hhead
      rw [htail] at hquery hfragment
      rw [endsPath, Bool.or_eq_true, beq_iff_eq, beq_iff_eq] at hd
      rcases hd with rfl | rfl
      · cases hquery
      · cases hfragment

/-- A slash is a part of the path, if what is before it is. -/
theorem split_slash {d : List Char} (h : ∀ c ∈ d, endsPath c = false) (z : List Char) :
    (d ++ '/' :: z).takeWhile (!endsPath ·) = d ++ '/' :: z.takeWhile (!endsPath ·) ∧
      (d ++ '/' :: z).dropWhile (!endsPath ·) = z.dropWhile (!endsPath ·) := by
  have hpath : ∀ c ∈ d, (!endsPath c) = true := fun c hc => by
    rw [h c hc]
    rfl
  constructor
  · rw [List.takeWhile_append_of_pos hpath]
    rfl
  · rw [List.dropWhile_append_of_pos hpath]
    rfl

/-! ## Reading -/

/-- The path, the query and the fragment that a text leads to from the place of some segments. -/
def reference (u : Url) (dir : List String) (cs : List Char) : Url :=
  { u with
    path := .segments (follow dir ((pathPieces true (cs.takeWhile (!endsPath ·))).map segmentText))
    query := queryOf true (cs.dropWhile (!endsPath ·))
    fragment := fragmentOf (cs.dropWhile (!endsPath ·)) }

/-- The path behind an authority that goes on with a slash. -/
theorem exists_pathAfter (d : List Char) :
    ∃ dir, ∀ p, pathAfter true (d ++ '/' :: p) =
      follow dir ((pathPieces true p).map segmentText) := by
  have hslash : isSlash true '/' = true := by decide
  have hsegments : ∀ e p : List Char, segmentsOf true (e ++ '/' :: p) =
      follow (((pathPieces true e).map segmentText).foldl enter [])
        ((pathPieces true p).map segmentText) := by
    intro e p
    rw [segmentsOf, pathPieces_append hslash, List.map_append,
      follow_append [] _ (map_pathPieces_ne_nil true p)]
  cases d with
  | nil => exact ⟨[], fun p => rfl⟩
  | cons c d =>
      by_cases hc : isSlash true c = true
      · refine ⟨((pathPieces true d).map segmentText).foldl enter [], fun p => ?_⟩
        rw [List.cons_append, pathAfter, if_pos hc, hsegments]
      · refine ⟨((pathPieces true (c :: d)).map segmentText).foldl enter [], fun p => ?_⟩
        rw [List.cons_append, pathAfter, if_neg hc, ← List.cons_append, hsegments]

/-- What is put behind the slash at the end of a path is read from there. -/
theorem exists_reference {u : Url} {a : Authority} {d : List Char}
    (hu : u = placed u.scheme a (d ++ ['/'])) (hserver : isServerScheme u.scheme = true)
    (hquery : u.query = none) (hfragment : u.fragment = none) :
    ∃ dir, ∀ z : List Char, placed u.scheme a (d ++ '/' :: z) = u.reference dir z := by
  have hpath : ∀ c ∈ d, endsPath c = false := by
    rw [hu, placed, hserver] at hquery hfragment
    intro c hc
    exact all_path_of_none hquery hfragment c (List.mem_append_left _ hc)
  obtain ⟨dir, hdir⟩ := exists_pathAfter d
  refine ⟨dir, fun z => ?_⟩
  obtain ⟨htake, hdrop⟩ := split_slash hpath z
  have husername : u.username = a.username := congrArg Url.username hu
  have hpassword : u.password = a.password := congrArg Url.password hu
  have hhost : u.host = a.host := congrArg Url.host hu
  have hauthority : u.hasAuthority = true := congrArg Url.hasAuthority hu
  have hport : u.port = a.port := congrArg Url.port hu
  simp only [placed, reference, hserver, htake, hdrop, hdir, husername, hpassword, hhost,
    hauthority, hport]

/-- **What is put behind an address with a slash at its end is read from there.** -/
theorem parse?_inDirectory {t : List Char} {u : Url}
    (h : parse? (.ofList (t ++ ['/'])) = some u) (hweb : u.isWeb = true) (hquery : u.query = none)
    (hfragment : u.fragment = none) :
    ∃ dir, u.path = .segments (dir ++ [""]) ∧
      ∀ y : List Char, parse? (.ofList (t ++ '/' :: y)) = some (u.reference dir (back y)) := by
  have hends : EndsBefore t (.ofList (t ++ ['/'])) :=
    ⟨['/'], String.toList_ofList, fun c hc => List.mem_singleton.1 hc⟩
  obtain ⟨-, -, hserver, -⟩ := parse?_web h hweb
  rcases parse?_below h hweb hends with hnone | ⟨a, d, -, hread⟩
  · rw [hnone] at h
    cases h
  · have hu : u = placed u.scheme a (d ++ ['/']) := by
      have hslash := hread []
      rw [h] at hslash
      exact Option.some.inj hslash
    obtain ⟨dir, hplaced⟩ := exists_reference hu hserver hquery hfragment
    refine ⟨dir, ?_, fun y => ?_⟩
    · have hpath : u.path = (u.reference dir []).path := by rw [← hplaced, ← hu]
      rw [hpath, reference]
      rfl
    · rw [hread, hplaced]

end ScimLookup.Url
