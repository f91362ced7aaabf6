import ScimLookup.Proofs.Json.Numeral
import ScimLookup.Proofs.Json.Quoted
import ScimLookup.Proofs.Json.Record

/-!
# Spellings of documents

The grammar of JSON texts: which bytes spell a document (`Spells`). Numerals and strings stand in
any of their forms, and white space before and after every value, name and list. Every spelling is
read as the document that it spells, up to the first byte that does not belong to it
(`Spells.isRead`), and such a document can be passed without a fault (`Spells.isPassed`), also where
it cannot be read as a value. A list of items is read by a function of its own, and so is a list of
members; so the spellings of all three are one relation, and what reading them means is said for
each (`Part.IsRead`).
-/

set_option autoImplicit false

namespace ScimLookup.Json

/-! ## White space -/

theorem skipBlank_blank {b : UInt8} (h : isBlank b = true) (bs : Bytes) :
    skipBlank (b :: bs) = skipBlank bs := by
  exact List.dropWhile_cons_of_pos h

theorem skipBlank_of_not {b : UInt8} (h : isBlank b = false) (bs : Bytes) :
    skipBlank (b :: bs) = b :: bs := by
  exact List.dropWhile_cons_of_neg (Bool.eq_false_iff.1 h)

theorem skipBlank_skipBlank (bs : Bytes) : skipBlank (skipBlank bs) = skipBlank bs := by
  induction bs with
  | nil => rfl
  | cons b bs ih =>
      cases hb : isBlank b with
      | true => rw [skipBlank_blank hb, ih]
      | false => rw [skipBlank_of_not hb, skipBlank_of_not hb]

/-- What is not white space stays, whatever is added behind it. -/
theorem skipBlank_append_cons {bs t : Bytes} {b : UInt8} (h : skipBlank bs = b :: t)
    (tail : Bytes) : skipBlank (bs ++ tail) = b :: (t ++ tail) := by
  have hskipped : bs.dropWhile isBlank = b :: t := h
  show (bs ++ tail).dropWhile isBlank = _
  rw [List.dropWhile_append, hskipped]
  rfl

theorem skipBlank_append_nil {bs : Bytes} (h : skipBlank bs = []) (tail : Bytes) :
    skipBlank (bs ++ tail) = skipBlank tail := by
  have hskipped : bs.dropWhile isBlank = [] := h
  show (bs ++ tail).dropWhile isBlank = _
  rw [List.dropWhile_append, hskipped]
  rfl

theorem extendsNumeral_of_isBlank {b : UInt8} (h : isBlank b = true) :
    extendsNumeral b = false := by
  simp only [isBlank, Bool.or_eq_true, beq_iff_eq] at h
  rcases h with ((rfl | rfl) | rfl) | rfl
  · decide
  · decide
  · decide
  · decide

theorem endsNumeral_blank {b : UInt8} (h : isBlank b = true) (bs : Bytes) :
    EndsNumeral (b :: bs) := by
  intro c hc
  cases hc
  exact extendsNumeral_of_isBlank h

/-- A mark that separates ends a numeral, also behind white space. -/
theorem endsNumeral_of_skipBlank {bs rest : Bytes} {mark : UInt8} (h : skipBlank bs = mark :: rest)
    (hmark : extendsNumeral mark = false) : EndsNumeral bs := by
  cases bs with
  | nil => cases h
  | cons b bs =>
      cases hb : isBlank b with
      | true => exact endsNumeral_blank hb bs
      | false =>
          rw [skipBlank_of_not hb] at h
          cases h
          intro c hc
          cases hc
          exact hmark

/-! ## Steps of reading -/

/-- Reading starts behind white space. -/
theorem read_skipBlank (fuel : Nat) (bs : Bytes) :
    readDoc fuel (skipBlank bs) = readDoc fuel bs ∧
      readItems fuel (skipBlank bs) = readItems fuel bs ∧
      readMembers fuel (skipBlank bs) = readMembers fuel bs := by
  have hdoc : ∀ fuel, readDoc fuel (skipBlank bs) = readDoc fuel bs := by
    intro fuel
    cases fuel with
    | zero => rfl
    | succ fuel => rw [readDoc, readDoc, skipBlank_skipBlank]
  -- The other two start with a document.
  cases fuel with
  | zero => exact ⟨rfl, rfl, rfl⟩
  | succ fuel =>
      refine ⟨hdoc _, ?_, ?_⟩
      · rw [readItems, readItems, hdoc]
      · rw [readMembers, readMembers, hdoc]

theorem readDoc_skipBlank (fuel : Nat) (bs : Bytes) :
    readDoc fuel (skipBlank bs) = readDoc fuel bs :=
  (read_skipBlank fuel bs).1

theorem readItems_skipBlank (fuel : Nat) (bs : Bytes) :
    readItems fuel (skipBlank bs) = readItems fuel bs :=
  (read_skipBlank fuel bs).2.1

theorem readMembers_skipBlank (fuel : Nat) (bs : Bytes) :
    readMembers fuel (skipBlank bs) = readMembers fuel bs :=
  (read_skipBlank fuel bs).2.2

/-- No numeral starts with white space. -/
theorem isBlank_of_opens {b : UInt8} (h : (b == 0x2D || isDigit b) = true) : isBlank b = false := by
  cases hb : isBlank b with
  | false => rfl
  | true =>
      simp only [isBlank, Bool.or_eq_true, beq_iff_eq] at hb
      rcases hb with ((rfl | rfl) | rfl) | rfl
      · exact absurd h (by decide)
      · exact absurd h (by decide)
      · exact absurd h (by decide)
      · exact absurd h (by decide)

/-- What starts like a numeral is read as one. -/
theorem readDoc_numeral {b : UInt8} (h : (b == 0x2D || isDigit b) = true) (fuel : Nat)
    (bs : Bytes) :
    readDoc (fuel + 1) (b :: bs) =
      (.number (readNumeral (b :: bs)).1,
        restAfter (readNumeral (b :: bs)).1.skipped (readNumeral (b :: bs)).2) := by
  rw [readDoc, skipBlank_of_not (isBlank_of_opens h)]
  -- No byte that opens another kind of value is a digit or a sign.
  split
  all_goals
    rename_i heq
    cases heq
  all_goals first
    | exact absurd h (by decide)
    | exact if_pos h

theorem readDoc_string (fuel : Nat) (bs : Bytes) :
    readDoc (fuel + 1) (0x22 :: bs) =
      (.string (readQuoted bs).1, restAfter (readQuoted bs).1.skipped (readQuoted bs).2) := rfl

/-- A bracket opens an array, which is closed at once or has items. -/
theorem readDoc_array {bs t : Bytes} {b : UInt8} (h : skipBlank bs = b :: t) (fuel : Nat) :
    (b = 0x5D → readDoc (fuel + 1) (0x5B :: bs) = (.array [] none, some t)) ∧
      (b ≠ 0x5D → readDoc (fuel + 1) (0x5B :: bs) =
        (.array (readItems fuel bs).1 (readItems fuel bs).2.1, (readItems fuel bs).2.2)) := by
  have hopen : skipBlank (0x5B :: bs) = 0x5B :: bs := skipBlank_of_not (by decide) bs
  rw [readDoc, hopen, ← readItems_skipBlank fuel bs, h]
  constructor
  · rintro rfl
    simp only [h]
  · intro hb
    simp only [h]
    split
    · rename_i heq
      cases heq
    · rename_i heq
      cases heq
      exact absurd rfl hb
    · rfl

/-- A brace opens an object, which is closed at once or has members. -/
theorem readDoc_object {bs t : Bytes} {b : UInt8} (h : skipBlank bs = b :: t) (fuel : Nat) :
    (b = 0x7D → readDoc (fuel + 1) (0x7B :: bs) = (.object [] none, some t)) ∧
      (b ≠ 0x7D → readDoc (fuel + 1) (0x7B :: bs) =
        (.object (readMembers fuel bs).1 (readMembers fuel bs).2.1,
          (readMembers fuel bs).2.2)) := by
  have hopen : skipBlank (0x7B :: bs) = 0x7B :: bs := skipBlank_of_not (by decide) bs
  rw [readDoc, hopen, ← readMembers_skipBlank fuel bs, h]
  constructor
  · rintro rfl
    simp only [h]
  · intro hb
    simp only [h]
    split
    · rename_i heq
      cases heq
    · rename_i heq
      cases heq
      exact absurd rfl hb
    · rfl

/-- An item of an array is the last one, or another one follows. -/
theorem readItems_item {fuel : Nat} {bs tail rest : Bytes} {d : Doc}
    (hdoc : readDoc fuel bs = (d, some tail)) :
    (skipBlank tail = 0x5D :: rest → readItems (fuel + 1) bs = ([d], none, some rest)) ∧
      (skipBlank tail = 0x2C :: rest → readItems (fuel + 1) bs =
        (d :: (readItems fuel rest).1, (readItems fuel rest).2.1, (readItems fuel rest).2.2)) := by
  rw [readItems, hdoc]
  constructor
  · intro hmark
    simp only [hmark]
  · intro hmark
    simp only [hmark]

/-- A member of an object is the last one, or another one follows. -/
theorem readMembers_member {fuel : Nat} {bs mid tail rest cs : Bytes} {q : Quoted} {d : Doc}
    (hname : readDoc fuel bs = (.string q, some mid)) (hcolon : skipBlank mid = 0x3A :: cs)
    (hdoc : readDoc fuel cs = (d, some tail)) :
    (skipBlank tail = 0x7D :: rest →
      readMembers (fuel + 1) bs = ([(.string q, d)], none, some rest)) ∧
      (skipBlank tail = 0x2C :: rest → readMembers (fuel + 1) bs =
        ((.string q, d) :: (readMembers fuel rest).1, (readMembers fuel rest).2.1,
          (readMembers fuel rest).2.2)) := by
  rw [readMembers, hname]
  constructor
  · intro hmark
    simp only [hcolon, hdoc, hmark]
  · intro hmark
    simp only [hcolon, hdoc, hmark]

/-! ## Spellings -/

/-- What is spelt: a document, the items of an array or the members of an object. -/
inductive Part where
  | doc (d : Doc)
  | items (ds : List Doc)
  | members (ms : List (Doc × Doc))

/-- A list without items or members. -/
def Part.isEmpty : Part → Bool
  | .doc _ => false
  | .items ds => ds.isEmpty
  | .members ms => ms.isEmpty

/-- The bytes of a truth value. -/
def boolBytes : Bool → Bytes
  | true => [0x74, 0x72, 0x75, 0x65]
  | false => [0x66, 0x61, 0x6C, 0x73, 0x65]

/-- The bytes spell the part. White space may stand before and behind each part; so it may stand
before and behind every mark between the parts. -/
inductive Spells : Part → Bytes → Prop where
  | null : Spells (.doc .null) [0x6E, 0x75, 0x6C, 0x6C]
  | bool (b : Bool) : Spells (.doc (.bool b)) (boolBytes b)
  | numeral {ns : Bytes} (numeral : IsNumeral ns) : Spells (.doc (.number (readNumeral ns).1)) ns
  | string {ps : List Piece} {bs : Bytes} (pieces : SpellsPieces ps bs) :
      Spells (.doc (.string ⟨pieceText none ps, none⟩)) (0x22 :: (bs ++ [0x22]))
  | array {ds : List Doc} {bs : Bytes} (items : Spells (.items ds) bs) :
      Spells (.doc (.array ds none)) (0x5B :: (bs ++ [0x5D]))
  | object {ms : List (Doc × Doc)} {bs : Bytes} (members : Spells (.members ms) bs) :
      Spells (.doc (.object ms none)) (0x7B :: (bs ++ [0x7D]))
  | noItems : Spells (.items []) []
  | lastItem {d : Doc} {bs : Bytes} (item : Spells (.doc d) bs) : Spells (.items [d]) bs
  | moreItems {d e : Doc} {ds : List Doc} {bs cs : Bytes} (item : Spells (.doc d) bs)
      (items : Spells (.items (e :: ds)) cs) : Spells (.items (d :: e :: ds)) (bs ++ 0x2C :: cs)
  | noMembers : Spells (.members []) []
  | lastMember {q : Quoted} {d : Doc} {ns bs : Bytes} (key : Spells (.doc (.string q)) ns)
      (item : Spells (.doc d) bs) : Spells (.members [(.string q, d)]) (ns ++ 0x3A :: bs)
  | moreMembers {q : Quoted} {d : Doc} {m : Doc × Doc} {ms : List (Doc × Doc)} {ns bs cs : Bytes}
      (key : Spells (.doc (.string q)) ns) (item : Spells (.doc d) bs)
      (members : Spells (.members (m :: ms)) cs) :
      Spells (.members ((.string q, d) :: m :: ms)) (ns ++ 0x3A :: (bs ++ 0x2C :: cs))
  | before {p : Part} {b : UInt8} {bs : Bytes} (blank : isBlank b = true) (part : Spells p bs) :
      Spells p (b :: bs)
  | after {p : Part} {b : UInt8} {bs : Bytes} (blank : isBlank b = true) (part : Spells p bs) :
      Spells p (bs ++ [b])

/-- A list that is empty is spelt by white space. -/
theorem Spells.skipBlank_eq {p : Part} {bs : Bytes} (h : Spells p bs) (hp : p.isEmpty = true) :
    skipBlank bs = [] := by
  induction h with
  | noItems => rfl
  | noMembers => rfl
  | before blank part ih => rw [skipBlank_blank blank, ih hp]
  | after blank part ih => rw [skipBlank_append_nil (ih hp), skipBlank_blank blank]; rfl
  | _ => cases hp

/-- Nothing else starts with a mark that closes a list. -/
theorem Spells.exists_cons {p : Part} {bs : Bytes} (h : Spells p bs) (hp : p.isEmpty = false) :
    ∃ b t, skipBlank bs = b :: t ∧ b ≠ 0x5D ∧ b ≠ 0x7D := by
  induction h with
  | null => exact ⟨0x6E, _, rfl, by decide, by decide⟩
  | bool b =>
      cases b with
      | true => exact ⟨0x74, _, rfl, by decide, by decide⟩
      | false => exact ⟨0x66, _, rfl, by decide, by decide⟩
  | numeral numeral =>
      obtain ⟨b, bs, hbs, hb⟩ := numeral.exists_cons
      refine ⟨b, bs, ?_, ?_, ?_⟩
      · rw [hbs, skipBlank_of_not (isBlank_of_opens hb)]
      · rintro rfl
        exact absurd hb (by decide)
      · rintro rfl
        exact absurd hb (by decide)
  | string pieces => exact ⟨0x22, _, skipBlank_of_not (by decide) _, by decide, by decide⟩
  | array items ih => exact ⟨0x5B, _, rfl, by decide, by decide⟩
  | object members ih => exact ⟨0x7B, _, rfl, by decide, by decide⟩
  | noItems => cases hp
  | lastItem item ih => exact ih rfl
  | moreItems item items ih _ =>
      obtain ⟨b, t, hbs, hb⟩ := ih rfl
      exact ⟨b, _, skipBlank_append_cons hbs _, hb⟩
  | noMembers => cases hp
  | lastMember key item ih _ =>
      obtain ⟨b, t, hbs, hb⟩ := ih rfl
      exact ⟨b, _, skipBlank_append_cons hbs _, hb⟩
  | moreMembers key item members ih _ _ =>
      obtain ⟨b, t, hbs, hb⟩ := ih rfl
      exact ⟨b, _, skipBlank_append_cons hbs _, hb⟩
  | before blank part ih =>
      obtain ⟨b, t, hbs, hb⟩ := ih hp
      exact ⟨b, t, (skipBlank_blank blank _).trans hbs, hb⟩
  | after blank part ih =>
      obtain ⟨b, t, hbs, hb⟩ := ih hp
      exact ⟨b, _, skipBlank_append_cons hbs _, hb⟩

/-! ## Reading -/

/-- What reading the part from the bytes means, whatever follows them. A document is read up to what
follows; the items of an array and the members of an object are read up to the mark that closes
them. -/
def Part.IsRead : Part → Bytes → Prop
  | .doc d, bs =>
    ∀ fuel tail, 2 * bs.length ≤ fuel → EndsNumeral tail →
      ∃ rest, readDoc fuel (bs ++ tail) = (d, some rest) ∧ skipBlank rest = skipBlank tail
  | .items ds, bs =>
    ds ≠ [] → ∀ fuel tail rest, 2 * bs.length + 1 ≤ fuel → skipBlank tail = 0x5D :: rest →
      readItems fuel (bs ++ tail) = (ds, none, some rest)
  | .members ms, bs =>
    ms ≠ [] → ∀ fuel tail rest, 2 * bs.length + 1 ≤ fuel → skipBlank tail = 0x7D :: rest →
      readMembers fuel (bs ++ tail) = (ms, none, some rest)

/-- A document behind which a mark follows is read up to the mark. -/
theorem Part.IsRead.before_mark {d : Doc} {bs tail rest : Bytes} {mark : UInt8} {fuel : Nat}
    (h : Part.IsRead (.doc d) bs) (hfuel : 2 * bs.length ≤ fuel)
    (htail : skipBlank tail = mark :: rest) (hmark : extendsNumeral mark = false) :
    ∃ mid, readDoc fuel (bs ++ tail) = (d, some mid) ∧ skipBlank mid = mark :: rest := by
  obtain ⟨mid, hread, hmid⟩ := h fuel tail hfuel (endsNumeral_of_skipBlank htail hmark)
  exact ⟨mid, hread, hmid.trans htail⟩

theorem Part.isRead_null : Part.IsRead (.doc .null) [0x6E, 0x75, 0x6C, 0x6C] := by
  intro fuel tail hfuel _
  rw [List.length_cons] at hfuel
  obtain ⟨fuel, rfl⟩ := Nat.exists_eq_add_of_le' (by omega : 1 ≤ fuel)
  exact ⟨tail, rfl, rfl⟩

theorem Part.isRead_bool (b : Bool) : Part.IsRead (.doc (.bool b)) (boolBytes b) := by
  intro fuel tail hfuel _
  cases b with
  | true =>
      rw [boolBytes, List.length_cons] at hfuel
      obtain ⟨fuel, rfl⟩ := Nat.exists_eq_add_of_le' (by omega : 1 ≤ fuel)
      exact ⟨tail, rfl, rfl⟩
  | false =>
      rw [boolBytes, List.length_cons] at hfuel
      obtain ⟨fuel, rfl⟩ := Nat.exists_eq_add_of_le' (by omega : 1 ≤ fuel)
      exact ⟨tail, rfl, rfl⟩

theorem Part.isRead_numeral {ns : Bytes} (h : IsNumeral ns) :
    Part.IsRead (.doc (.number (readNumeral ns).1)) ns := by
  intro fuel tail hfuel htail
  obtain ⟨hskipped, hread⟩ := h.readNumeral_eq
  have hwhole := hread tail htail
  obtain ⟨b, bs, rfl, hb⟩ := h.exists_cons
  rw [List.length_cons] at hfuel
  obtain ⟨fuel, rfl⟩ := Nat.exists_eq_add_of_le' (by omega : 1 ≤ fuel)
  refine ⟨tail, ?_, rfl⟩
  rw [List.cons_append] at hwhole ⊢
  rw [readDoc_numeral hb, hwhole]
  simp only [hskipped]
  rfl

/-- A string is read up to its closing mark. -/
theorem Part.isRead_string {ps : List Piece} {bs : Bytes} (h : SpellsPieces ps bs) :
    Part.IsRead (.doc (.string ⟨pieceText none ps, none⟩)) (0x22 :: (bs ++ [0x22])) := by
  intro fuel tail hfuel _
  rw [List.length_cons] at hfuel
  obtain ⟨fuel, rfl⟩ := Nat.exists_eq_add_of_le' (by omega : 1 ≤ fuel)
  refine ⟨tail, ?_, rfl⟩
  rw [List.cons_append, List.append_assoc, List.singleton_append, readDoc_string, h.readQuoted_eq]
  rfl

/-- An array is read with its items. -/
theorem Part.IsRead.array {ds : List Doc} {bs : Bytes} (items : Spells (.items ds) bs)
    (ih : Part.IsRead (.items ds) bs) :
    Part.IsRead (.doc (.array ds none)) (0x5B :: (bs ++ [0x5D])) := by
  intro fuel tail hfuel _
  rw [List.length_cons, List.length_append, List.length_singleton] at hfuel
  obtain ⟨fuel, rfl⟩ := Nat.exists_eq_add_of_le' (by omega : 1 ≤ fuel)
  have hclose : skipBlank (0x5D :: tail) = 0x5D :: tail := skipBlank_of_not (by decide) tail
  rw [List.cons_append, List.append_assoc, List.singleton_append]
  refine ⟨tail, ?_, rfl⟩
  -- Without items there is only white space up to the bracket.
  by_cases hds : ds = []
  · subst hds
    have hblank : skipBlank (bs ++ 0x5D :: tail) = 0x5D :: tail := by
      rw [skipBlank_append_nil (items.skipBlank_eq rfl), hclose]
    exact (readDoc_array hblank fuel).1 rfl
  · obtain ⟨b, t, hbs, hb, -⟩ := items.exists_cons (List.isEmpty_eq_false_iff.2 hds)
    have hitems := ih hds fuel (0x5D :: tail) tail (by omega) hclose
    rw [(readDoc_array (skipBlank_append_cons hbs _) fuel).2 hb, hitems]

/-- An object is read with its members. -/
theorem Part.IsRead.object {ms : List (Doc × Doc)} {bs : Bytes}
    (members : Spells (.members ms) bs) (ih : Part.IsRead (.members ms) bs) :
    Part.IsRead (.doc (.object ms none)) (0x7B :: (bs ++ [0x7D])) := by
  intro fuel tail hfuel _
  rw [List.length_cons, List.length_append, List.length_singleton] at hfuel
  obtain ⟨fuel, rfl⟩ := Nat.exists_eq_add_of_le' (by omega : 1 ≤ fuel)
  have hclose : skipBlank (0x7D :: tail) = 0x7D :: tail := skipBlank_of_not (by decide) tail
  rw [List.cons_append, List.append_assoc, List.singleton_append]
  refine ⟨tail, ?_, rfl⟩
  -- Without members there is only white space up to the brace.
  by_cases hms : ms = []
  · subst hms
    have hblank : skipBlank (bs ++ 0x7D :: tail) = 0x7D :: tail := by
      rw [skipBlank_append_nil (members.skipBlank_eq rfl), hclose]
    exact (readDoc_object hblank fuel).1 rfl
  · obtain ⟨b, t, hbs, -, hb⟩ := members.exists_cons (List.isEmpty_eq_false_iff.2 hms)
    have hmembers := ih hms fuel (0x7D :: tail) tail (by omega) hclose
    rw [(readDoc_object (skipBlank_append_cons hbs _) fuel).2 hb, hmembers]

theorem Part.IsRead.lastItem {d : Doc} {bs : Bytes} (ih : Part.IsRead (.doc d) bs) :
    Part.IsRead (.items [d]) bs := by
  intro _ fuel tail rest hfuel htail
  obtain ⟨fuel, rfl⟩ := Nat.exists_eq_add_of_le' (by omega : 1 ≤ fuel)
  have hbs : 2 * bs.length ≤ fuel := by omega
  obtain ⟨mid, hdoc, hmid⟩ := ih.before_mark hbs htail (by decide)
  exact (readItems_item hdoc).1 hmid

theorem Part.IsRead.moreItems {d e : Doc} {ds : List Doc} {bs cs : Bytes}
    (ih : Part.IsRead (.doc d) bs) (ihs : Part.IsRead (.items (e :: ds)) cs) :
    Part.IsRead (.items (d :: e :: ds)) (bs ++ 0x2C :: cs) := by
  intro _ fuel tail rest hfuel htail
  rw [List.length_append, List.length_cons] at hfuel
  obtain ⟨fuel, rfl⟩ := Nat.exists_eq_add_of_le' (by omega : 1 ≤ fuel)
  have hbs : 2 * bs.length ≤ fuel := by omega
  have hcomma : skipBlank (0x2C :: (cs ++ tail)) = 0x2C :: (cs ++ tail) :=
    skipBlank_of_not (by decide) _
  have hitems := ihs (List.cons_ne_nil e ds) fuel tail rest (by omega) htail
  obtain ⟨mid, hdoc, hmid⟩ := ih.before_mark hbs hcomma (by decide)
  rw [List.append_assoc, List.cons_append, (readItems_item hdoc).2 hmid, hitems]

theorem Part.IsRead.lastMember {q : Quoted} {d : Doc} {ns bs : Bytes}
    (ihk : Part.IsRead (.doc (.string q)) ns) (ih : Part.IsRead (.doc d) bs) :
    Part.IsRead (.members [(.string q, d)]) (ns ++ 0x3A :: bs) := by
  intro _ fuel tail rest hfuel htail
  rw [List.length_append, List.length_cons] at hfuel
  obtain ⟨fuel, rfl⟩ := Nat.exists_eq_add_of_le' (by omega : 1 ≤ fuel)
  have hns : 2 * ns.length ≤ fuel := by omega
  have hbs : 2 * bs.length ≤ fuel := by omega
  have hcolon : skipBlank (0x3A :: (bs ++ tail)) = 0x3A :: (bs ++ tail) :=
    skipBlank_of_not (by decide) _
  obtain ⟨keyEnd, hkey, hkeyEnd⟩ := ihk.before_mark hns hcolon (by decide)
  obtain ⟨mid, hdoc, hmid⟩ := ih.before_mark hbs htail (by decide)
  rw [List.append_assoc, List.cons_append]
  exact (readMembers_member hkey hkeyEnd hdoc).1 hmid

theorem Part.IsRead.moreMembers {q : Quoted} {d : Doc} {m : Doc × Doc} {ms : List (Doc × Doc)}
    {ns bs cs : Bytes} (ihk : Part.IsRead (.doc (.string q)) ns) (ih : Part.IsRead (.doc d) bs)
    (ihs : Part.IsRead (.members (m :: ms)) cs) :
    Part.IsRead (.members ((.string q, d) :: m :: ms)) (ns ++ 0x3A :: (bs ++ 0x2C :: cs)) := by
  intro _ fuel tail rest hfuel htail
  rw [List.length_append, List.length_cons, List.length_append, List.length_cons] at hfuel
  obtain ⟨fuel, rfl⟩ := Nat.exists_eq_add_of_le' (by omega : 1 ≤ fuel)
  have hns : 2 * ns.length ≤ fuel := by omega
  have hbs : 2 * bs.length ≤ fuel := by omega
  have hcomma : skipBlank (0x2C :: (cs ++ tail)) = 0x2C :: (cs ++ tail) :=
    skipBlank_of_not (by decide) _
  have hcolon : skipBlank (0x3A :: (bs ++ 0x2C :: (cs ++ tail))) =
      0x3A :: (bs ++ 0x2C :: (cs ++ tail)) := skipBlank_of_not (by decide) _
  have hmembers := ihs (List.cons_ne_nil m ms) fuel tail rest (by omega) htail
  obtain ⟨keyEnd, hkey, hkeyEnd⟩ := ihk.before_mark hns hcolon (by decide)
  obtain ⟨mid, hdoc, hmid⟩ := ih.before_mark hbs hcomma (by decide)
  rw [List.append_assoc, List.cons_append, List.append_assoc, List.cons_append,
    (readMembers_member hkey hkeyEnd hdoc).2 hmid, hmembers]

/-- White space in front is skipped by each of the three functions. -/
theorem Part.IsRead.before {p : Part} {b : UInt8} {bs : Bytes} (blank : isBlank b = true)
    (ih : p.IsRead bs) :
    p.IsRead (b :: bs) := by
  cases p with
  | doc d =>
      intro fuel tail hfuel htail
      rw [List.length_cons] at hfuel
      obtain ⟨rest, hread, hrest⟩ := ih fuel tail (by omega) htail
      refine ⟨rest, ?_, hrest⟩
      rw [List.cons_append, ← readDoc_skipBlank, skipBlank_blank blank, readDoc_skipBlank, hread]
  | items ds =>
      intro hds fuel tail rest hfuel htail
      rw [List.length_cons] at hfuel
      rw [List.cons_append, ← readItems_skipBlank, skipBlank_blank blank, readItems_skipBlank]
      exact ih hds fuel tail rest (by omega) htail
  | members ms =>
      intro hms fuel tail rest hfuel htail
      rw [List.length_cons] at hfuel
      rw [List.cons_append, ← readMembers_skipBlank, skipBlank_blank blank,
        readMembers_skipBlank]
      exact ih hms fuel tail rest (by omega) htail

/-- White space behind a part belongs to what follows the part. -/
theorem Part.IsRead.after {p : Part} {b : UInt8} {bs : Bytes} (blank : isBlank b = true)
    (ih : p.IsRead bs) :
    p.IsRead (bs ++ [b]) := by
  cases p with
  | doc d =>
      intro fuel tail hfuel _
      rw [List.length_append, List.length_singleton] at hfuel
      obtain ⟨rest, hread, hrest⟩ := ih fuel (b :: tail) (by omega) (endsNumeral_blank blank tail)
      refine ⟨rest, ?_, ?_⟩
      · rw [List.append_assoc, List.singleton_append, hread]
      · rw [hrest, skipBlank_blank blank]
  | items ds =>
      intro hds fuel tail rest hfuel htail
      rw [List.length_append, List.length_singleton] at hfuel
      rw [List.append_assoc, List.singleton_append]
      exact ih hds fuel (b :: tail) rest (by omega) ((skipBlank_blank blank tail).trans htail)
  | members ms =>
      intro hms fuel tail rest hfuel htail
      rw [List.length_append, List.length_singleton] at hfuel
      rw [List.append_assoc, List.singleton_append]
      exact ih hms fuel (b :: tail) rest (by omega) ((skipBlank_blank blank tail).trans htail)

/-- **A part is read from any of its spellings.** -/
theorem Spells.isRead {p : Part} {bs : Bytes} (h : Spells p bs) : p.IsRead bs := by
  induction h with
  | null => exact Part.isRead_null
  | bool b => exact Part.isRead_bool b
  | numeral numeral => exact Part.isRead_numeral numeral
  | string pieces => exact Part.isRead_string pieces
  | array items ih => exact ih.array items
  | object members ih => exact ih.object members
  | noItems =>
      intro h
      exact absurd rfl h
  | lastItem item ih => exact ih.lastItem
  | moreItems item items ih ihs => exact ih.moreItems ihs
  | noMembers =>
      intro h
      exact absurd rfl h
  | lastMember key item ihk ih => exact ihk.lastMember ih
  | moreMembers key item members ihk ih ihs => exact ihk.moreMembers ih ihs
  | before blank part ih => exact ih.before blank
  | after blank part ih => exact ih.after blank

/-- **A document is read from any of its spellings.** -/
theorem Document.ofBytes_of_spells {d : Doc} {bs : Bytes} (h : Spells (.doc d) bs) :
    Document.ofBytes bs = ⟨d, true⟩ := by
  obtain ⟨rest, hread, hrest⟩ := h.isRead (2 * bs.length + 2) [] (by omega) endsNumeral_nil
  rw [List.append_nil] at hread
  rw [Document.ofBytes, hread]
  simp only [hrest]
  rfl

/-! ## Skipping -/

/-- The part can be passed without a fault. -/
def Part.IsPassed : Part → Prop
  | .doc d => d.skip = .ok ()
  | .items ds => skipItems ds = .ok ()
  | .members ms => skipMembers ms = .ok ()

/-- **What is spelt can be passed**, whatever it is. -/
theorem Spells.isPassed {p : Part} {bs : Bytes} (h : Spells p bs) : p.IsPassed := by
  have hpair : ∀ {x y : Except Fault Unit}, x = .ok () → y = .ok () →
      (x >>= fun _ => y) = .ok () := fun hx hy => bind_unit_ok_iff.2 ⟨hx, hy⟩
  induction h with
  | null => rfl
  | bool b => rfl
  | numeral numeral =>
      show raise _ = _
      rw [numeral.readNumeral_eq.1]
      rfl
  | string pieces => rfl
  | array items ih => exact hpair ih rfl
  | object members ih => exact hpair ih rfl
  | noItems => rfl
  | lastItem item ih => exact hpair ih rfl
  | moreItems item items ih ihs => exact hpair ih ihs
  | noMembers => rfl
  | lastMember key item ihk ih => exact hpair (hpair ihk ih) rfl
  | moreMembers key item members ihk ih ihs => exact hpair (hpair ihk ih) ihs
  | before blank part ih => exact ih
  | after blank part ih => exact ih

end ScimLookup.Json
