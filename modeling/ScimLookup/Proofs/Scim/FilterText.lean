import ScimLookup.Scim.Filter

/-!
# Filters read off their text

The text of a filter says which filter it is (`Filter.text_eq_iff_alike`): two filters with the same
text are the same, except that a group with one member at most does not show whether it is a
conjunction or a disjunction. For this the paths must not hold the characters that stand around
them, and the values no quotation mark; both may look like operators or words in any other way.

The text of a filter shows where it ends, so nothing that follows can be taken for a part of it
(`isTold`). This is proved along the filter and the members of its groups together.
-/

set_option autoImplicit false

namespace ScimLookup

namespace Text

/-- Equal texts have the same text before the first occurrence of a character, and the same text
behind it. -/
theorem eq_of_append_cons {c : Char} {xs ys rs ss : List Char} (hx : c ∉ xs) (hy : c ∉ ys)
    (h : xs ++ c :: rs = ys ++ c :: ss) : xs = ys ∧ rs = ss := by
  induction xs generalizing ys with
  | nil =>
      cases ys with
      | nil => exact ⟨rfl, List.tail_eq_of_cons_eq h⟩
      | cons y ys =>
          have hhead : c = y := List.head_eq_of_cons_eq h
          exact absurd (hhead ▸ List.mem_cons_self) hy
  | cons x xs ih =>
      cases ys with
      | nil =>
          have hhead : x = c := List.head_eq_of_cons_eq h
          exact absurd (hhead ▸ List.mem_cons_self) hx
      | cons y ys =>
          have hhead : x = y := List.head_eq_of_cons_eq h
          have htail : xs ++ c :: rs = ys ++ c :: ss := List.tail_eq_of_cons_eq h
          obtain ⟨rfl, hrest⟩ :=
            ih (fun hmem => hx (List.mem_cons_of_mem x hmem))
              (fun hmem => hy (List.mem_cons_of_mem y hmem)) htail
          exact ⟨by rw [hhead], hrest⟩

end Text

namespace Comparator

/-- What holds of the written operators: there is a first character, which opens nothing else, no
space stands in them, and none of them is the word for a negation. -/
theorem text_facts (op : Comparator) :
    (∃ c cs, op.text.toList = c :: cs ∧ c ∉ ['\x22', '(']) ∧ ' ' ∉ op.text.toList ∧
      op.text.toList ≠ ['n', 'o', 't'] := by
  cases op with
  | equal => exact ⟨⟨'e', ['q'], by decide⟩, by decide⟩
  | equalIgnoringCase => exact ⟨⟨'e', ['q', '_', 'c', 'i'], by decide⟩, by decide⟩
  | notEqual => exact ⟨⟨'n', ['e'], by decide⟩, by decide⟩
  | contains => exact ⟨⟨'c', ['o'], by decide⟩, by decide⟩
  | startsWith => exact ⟨⟨'s', ['w'], by decide⟩, by decide⟩
  | endsWith => exact ⟨⟨'e', ['w'], by decide⟩, by decide⟩
  | greaterThan => exact ⟨⟨'g', ['t'], by decide⟩, by decide⟩

/-- The operator with a written form. -/
def ofText? (s : String) : Option Comparator :=
  [equal, equalIgnoringCase, notEqual, contains, startsWith, endsWith, greaterThan].find?
    (·.text = s)

theorem ofText?_text (op : Comparator) : ofText? op.text = some op := by
  cases op <;> decide

theorem text_injective {op op' : Comparator} (h : op.text = op'.text) : op = op' := by
  have hback := congrArg ofText? h
  rw [ofText?_text, ofText?_text] at hback
  exact Option.some.inj hback

end Comparator

namespace Filter

/-! ## Legible filters -/

/-- The characters that stand around a path. -/
def marks : List Char := [' ', '\x22', '(', ')']

mutual

/-- No filter is missing, no path holds a character that stands around paths, and no value holds a
quotation mark. -/
def isLegible : Filter → Bool
  | .absent => false
  | .compare path _ value => path.toList.all (· ∉ marks) && value.toList.all (· ≠ '\x22')
  | .all filters => areLegible filters
  | .any filters => areLegible filters
  | .deny filter => filter.isLegible

/-- All of the filters are legible. -/
def areLegible : List Filter → Bool
  | [] => true
  | f :: fs => f.isLegible && areLegible fs

end

theorem isLegible_compare_iff {path value : String} {op : Comparator} :
    (compare path op value).isLegible = true ↔
      (∀ c ∈ path.toList, c ∉ marks) ∧ '\x22' ∉ value.toList := by
  rw [isLegible, Bool.and_eq_true, List.all_eq_true, List.all_eq_true]
  simp only [decide_eq_true_eq]
  refine and_congr_right fun _ => ⟨?_, ?_⟩
  · intro h hmem
    exact h _ hmem rfl
  · rintro h c hmem rfl
    exact h hmem

theorem areLegible_cons_iff {f : Filter} {fs : List Filter} :
    areLegible (f :: fs) = true ↔ f.isLegible = true ∧ areLegible fs = true := by
  rw [areLegible, Bool.and_eq_true]

/-! ## Alike filters -/

/-- The filter is a group, with a separator between its members. -/
inductive IsGroup : Filter → List Char → List Filter → Prop
  | all (fs : List Filter) : IsGroup (.all fs) andWord fs
  | any (fs : List Filter) : IsGroup (.any fs) orWord fs

mutual

/-- The filters are equal up to the kind of those groups that have one member at most. -/
inductive Alike : Filter → Filter → Prop
  | absent : Alike .absent .absent
  | compare (path : String) (op : Comparator) (value : String) :
      Alike (.compare path op value) (.compare path op value)
  | group {f g : Filter} {a b : List Char} {fs gs : List Filter} :
      IsGroup f a fs → IsGroup g b gs → a = b ∨ fs.length ≤ 1 → AlikeAll fs gs → Alike f g
  | deny {f g : Filter} : Alike f g → Alike (.deny f) (.deny g)

/-- As many filters, each like the one in its place. -/
inductive AlikeAll : List Filter → List Filter → Prop
  | nil : AlikeAll [] []
  | cons {f g : Filter} {fs gs : List Filter} :
      Alike f g → AlikeAll fs gs → AlikeAll (f :: fs) (g :: gs)

end

theorem AlikeAll.length_eq {fs gs : List Filter} (h : AlikeAll fs gs) : fs.length = gs.length := by
  induction fs generalizing gs with
  | nil =>
      cases h
      rfl
  | cons f fs ih =>
      cases h with
      | cons hf hfs => rw [List.length_cons, List.length_cons, ih hfs]

/-! ## Written forms -/

section Written

variable {f g : Filter} {r s : List Char}

theorem written_compare (path : String) (op : Comparator) (value : String) (r : List Char) :
    (compare path op value).written ++ r =
      path.toList ++ ' ' :: (op.text.toList ++ ' ' :: '\x22' :: (value.toList ++ '\x22' :: r)) := by
  simp [written]

theorem written_deny (f : Filter) (r : List Char) :
    (deny f).written ++ r = ['n', 'o', 't'] ++ ' ' :: (f.written ++ r) := by
  simp [written, notWord]

theorem IsGroup.written_eq {separator : List Char} {fs : List Filter}
    (h : IsGroup f separator fs) (r : List Char) :
    f.written ++ r = '(' :: (writtenGroup separator fs ++ ')' :: r) := by
  cases h with
  | all => simp [written]
  | any => simp [written]

theorem IsGroup.areLegible {separator : List Char} {fs : List Filter} (h : IsGroup f separator fs)
    (hf : f.isLegible = true) : areLegible fs = true := by
  cases h with
  | all => rwa [isLegible] at hf
  | any => rwa [isLegible] at hf

/-- What follows the first member of a group. -/
def writtenRest (separator : List Char) : List Filter → List Char
  | [] => []
  | fs => separator ++ writtenGroup separator fs

theorem writtenRest_cons (separator : List Char) (f : Filter) (fs : List Filter) :
    writtenRest separator (f :: fs) = separator ++ writtenGroup separator (f :: fs) :=
  rfl

theorem writtenGroup_cons (separator : List Char) (f : Filter) (fs : List Filter) :
    writtenGroup separator (f :: fs) = f.written ++ writtenRest separator fs := by
  cases fs with
  | nil => simp [writtenGroup, writtenRest]
  | cons g gs => simp [writtenGroup, writtenRest]

/-- A legible filter is a comparison, a group or a negation. -/
theorem cases_of_isLegible (hf : f.isLegible = true) :
    (∃ path op value, f = .compare path op value) ∨ (∃ a fs, IsGroup f a fs) ∨
      ∃ f', f = .deny f' := by
  cases f with
  | absent => simp [isLegible] at hf
  | compare path op value => exact Or.inl ⟨path, op, value, rfl⟩
  | all fs => exact Or.inr (Or.inl ⟨_, _, .all fs⟩)
  | any fs => exact Or.inr (Or.inl ⟨_, _, .any fs⟩)
  | deny f' => exact Or.inr (Or.inr ⟨f', rfl⟩)

/-- A comparison begins with its path, so with none of the other characters that stand around
paths. -/
theorem written_compare_ne {path value : String} {op : Comparator} {c : Char}
    (hc : c ∈ ['\x22', '(', ')']) (hf : (compare path op value).isLegible = true)
    (r s : List Char) : (compare path op value).written ++ r ≠ c :: s := by
  intro h
  have hpath := (isLegible_compare_iff.1 hf).1
  rw [written_compare] at h
  -- Before an empty path there is the space behind it.
  cases hp : path.toList with
  | nil =>
      rw [hp] at h
      have hspace : ' ' = c := List.head_eq_of_cons_eq h
      rw [← hspace] at hc
      exact absurd hc (by decide)
  | cons p ps =>
      rw [hp] at h
      have hfirst : p = c := List.head_eq_of_cons_eq h
      have hmark : c ∉ marks := hfirst ▸ hpath p (by rw [hp]; exact List.mem_cons_self)
      exact hmark (List.mem_cons_of_mem ' ' hc)

/-- A legible filter does not begin like the end of a group. -/
theorem written_ne_close (hf : f.isLegible = true) (r s : List Char) :
    f.written ++ r ≠ ')' :: s := by
  intro h
  rcases cases_of_isLegible hf with ⟨path, op, value, rfl⟩ | ⟨a, fs, hgroup⟩ | ⟨f', rfl⟩
  · exact written_compare_ne (by decide) hf r s h
  · rw [hgroup.written_eq] at h
    exact absurd (List.head_eq_of_cons_eq h) (by decide)
  · rw [written_deny] at h
    exact absurd (List.head_eq_of_cons_eq h) (by decide)

/-- A legible filter does not begin like an operator before a value. -/
theorem written_ne_operator (hf : f.isLegible = true) (op : Comparator) (r s : List Char) :
    f.written ++ r ≠ op.text.toList ++ ' ' :: '\x22' :: s := by
  obtain ⟨⟨c, cs, hop, hfirst⟩, hspace, hnot⟩ := op.text_facts
  intro h
  rcases cases_of_isLegible hf with ⟨path, op', value, rfl⟩ | ⟨a, fs, hgroup⟩ | ⟨f', rfl⟩
  · have hpath : ' ' ∉ path.toList := fun hmem =>
      (isLegible_compare_iff.1 hf).1 _ hmem (by decide)
    rw [written_compare] at h
    -- The path would be the operator, and an operator would begin with a quotation mark.
    have hvalue := (Text.eq_of_append_cons hpath hspace h).2
    obtain ⟨⟨c', cs', hop', hfirst'⟩, -, -⟩ := op'.text_facts
    rw [hop'] at hvalue
    have hquote : c' = '\x22' := List.head_eq_of_cons_eq hvalue
    rw [hquote] at hfirst'
    exact absurd hfirst' (by decide)
  · rw [hgroup.written_eq, hop] at h
    have hopen : '(' = c := List.head_eq_of_cons_eq h
    rw [← hopen] at hfirst
    exact absurd hfirst (by decide)
  · rw [written_deny] at h
    exact hnot (Text.eq_of_append_cons (by decide) hspace h).1.symm

end Written

/-! ## Telling filters apart -/

/-- A text that begins with the text of the filter begins with no other one. -/
def IsTold (f : Filter) : Prop :=
  ∀ (g : Filter) (r s : List Char), f.isLegible = true → g.isLegible = true →
    f.written ++ r = g.written ++ s → Alike f g ∧ r = s

/-- The text stands between the members of a group. -/
def IsSeparator (a : List Char) : Prop :=
  a = andWord ∨ a = orWord

/-- A text that begins with the members of a group and its end begins with no other ones. -/
def AreTold (fs : List Filter) : Prop :=
  ∀ (gs : List Filter) (a b r s : List Char), IsSeparator a → IsSeparator b →
    areLegible fs = true → areLegible gs = true →
    writtenGroup a fs ++ ')' :: r = writtenGroup b gs ++ ')' :: s →
    AlikeAll fs gs ∧ (a = b ∨ fs.length ≤ 1) ∧ r = s

theorem IsGroup.isSeparator {f : Filter} {a : List Char} {fs : List Filter} (h : IsGroup f a fs) :
    IsSeparator a := by
  cases h with
  | all => exact Or.inl rfl
  | any => exact Or.inr rfl

/-- The two separators differ in a place that both have. -/
theorem IsSeparator.eq_of_append {a b xs ys : List Char} (ha : IsSeparator a) (hb : IsSeparator b)
    (h : a ++ xs = b ++ ys) : a = b ∧ xs = ys := by
  rcases ha with rfl | rfl
  · rcases hb with rfl | rfl
    · exact ⟨rfl, List.append_cancel_left h⟩
    · simp [andWord, orWord] at h
  · rcases hb with rfl | rfl
    · simp [andWord, orWord] at h
    · exact ⟨rfl, List.append_cancel_left h⟩

theorem IsSeparator.head_eq {a xs : List Char} {c : Char} {ys : List Char} (ha : IsSeparator a)
    (h : a ++ xs = c :: ys) : c = ' ' := by
  rcases ha with rfl | rfl
  · exact (List.head_eq_of_cons_eq h).symm
  · exact (List.head_eq_of_cons_eq h).symm

/-- A comparison is told by its path, its operator and its value, each of which shows its end. -/
theorem isTold_compare (path : String) (op : Comparator) (value : String) :
    (compare path op value).IsTold := by
  intro g r s hf hg h
  obtain ⟨hpath, hvalue⟩ := isLegible_compare_iff.1 hf
  have hspace : ' ' ∉ path.toList := fun hmem => hpath _ hmem (by decide)
  rcases cases_of_isLegible hg with ⟨path', op', value', rfl⟩ | ⟨a, gs, hgroup⟩ | ⟨g', rfl⟩
  · obtain ⟨hpath', hvalue'⟩ := isLegible_compare_iff.1 hg
    have hspace' : ' ' ∉ path'.toList := fun hmem => hpath' _ hmem (by decide)
    rw [written_compare, written_compare] at h
    obtain ⟨hsamePath, h⟩ := Text.eq_of_append_cons hspace hspace' h
    obtain ⟨hsameOp, h⟩ := Text.eq_of_append_cons op.text_facts.2.1 op'.text_facts.2.1 h
    obtain ⟨hsameValue, hrest⟩ := Text.eq_of_append_cons hvalue hvalue' (List.tail_eq_of_cons_eq h)
    obtain rfl := String.toList_inj.1 hsamePath
    obtain rfl := Comparator.text_injective (String.toList_inj.1 hsameOp)
    obtain rfl := String.toList_inj.1 hsameValue
    exact ⟨.compare path op value, hrest⟩
  · rw [hgroup.written_eq] at h
    exact absurd h (written_compare_ne (by decide) hf _ _)
  · -- Even where the path is the word for a negation, its operator cannot be taken for a filter.
    rw [written_compare, written_deny] at h
    have hrest := (Text.eq_of_append_cons hspace (by decide) h).2
    rw [isLegible] at hg
    exact absurd hrest.symm (written_ne_operator hg op _ _)

/-- A group is told by its members, and by its separator if it has one. -/
theorem IsGroup.isTold {f : Filter} {a : List Char} {fs : List Filter} (h : IsGroup f a fs)
    (hfs : AreTold fs) : f.IsTold := by
  intro g r s hf hg heq
  rw [h.written_eq] at heq
  rcases cases_of_isLegible hg with ⟨path, op, value, rfl⟩ | ⟨b, gs, hgroup⟩ | ⟨g', rfl⟩
  · exact absurd heq.symm (written_compare_ne (by decide) hg _ _)
  · rw [hgroup.written_eq] at heq
    obtain ⟨halike, hkind, hrest⟩ := hfs gs a b r s h.isSeparator hgroup.isSeparator
      (h.areLegible hf) (hgroup.areLegible hg) (List.tail_eq_of_cons_eq heq)
    exact ⟨.group h hgroup hkind halike, hrest⟩
  · rw [written_deny] at heq
    exact absurd (List.head_eq_of_cons_eq heq) (by decide)

/-- A negation is told by what it denies. -/
theorem isTold_deny {f : Filter} (h : f.IsTold) : (deny f).IsTold := by
  intro g r s hf hg heq
  have hdenied : f.isLegible = true := by rwa [isLegible] at hf
  rw [written_deny] at heq
  rcases cases_of_isLegible hg with ⟨path, op, value, rfl⟩ | ⟨b, gs, hgroup⟩ | ⟨g', rfl⟩
  · have hspace : ' ' ∉ path.toList := fun hmem =>
      (isLegible_compare_iff.1 hg).1 _ hmem (by decide)
    rw [written_compare] at heq
    have hrest := (Text.eq_of_append_cons (by decide) hspace heq).2
    exact absurd hrest (written_ne_operator hdenied op _ _)
  · rw [hgroup.written_eq] at heq
    exact absurd (List.head_eq_of_cons_eq heq) (by decide)
  · rw [isLegible] at hg
    rw [written_deny] at heq
    have hsame : f.written ++ r = g'.written ++ s :=
      List.tail_eq_of_cons_eq (List.append_cancel_left heq)
    obtain ⟨halike, hrest⟩ := h g' r s hdenied hg hsame
    exact ⟨.deny halike, hrest⟩

theorem areTold_nil : AreTold [] := by
  intro gs a b r s ha hb hfs hgs h
  cases gs with
  | nil => exact ⟨.nil, Or.inr (Nat.zero_le 1), List.tail_eq_of_cons_eq h⟩
  | cons g gs =>
      rw [writtenGroup_cons, List.append_assoc] at h
      exact absurd h.symm (written_ne_close (areLegible_cons_iff.1 hgs).1 _ _)

/-- Members are told one after the other; what follows the first one is the end of the group or a
separator, which tells the kind of the group. -/
theorem areTold_cons {f : Filter} {fs : List Filter} (hf : f.IsTold) (hfs : AreTold fs) :
    AreTold (f :: fs) := by
  intro gs a b r s ha hb hlegible hgs h
  obtain ⟨hlegible, hlegibles⟩ := areLegible_cons_iff.1 hlegible
  rw [writtenGroup_cons, List.append_assoc] at h
  cases gs with
  | nil => exact absurd h (written_ne_close hlegible _ _)
  | cons g gs =>
      obtain ⟨hg, hgs⟩ := areLegible_cons_iff.1 hgs
      rw [writtenGroup_cons, List.append_assoc] at h
      obtain ⟨halike, hrest⟩ := hf g _ _ hlegible hg h
      cases fs with
      | nil =>
          cases gs with
          | nil => exact ⟨.cons halike .nil, Or.inr (Nat.le_refl 1), List.tail_eq_of_cons_eq hrest⟩
          | cons g' gs =>
              rw [writtenRest_cons, List.append_assoc] at hrest
              exact absurd (hb.head_eq hrest.symm) (by decide)
      | cons f' fs =>
          rw [writtenRest_cons, List.append_assoc] at hrest
          cases gs with
          | nil => exact absurd (ha.head_eq hrest) (by decide)
          | cons g' gs =>
              rw [writtenRest_cons, List.append_assoc] at hrest
              obtain ⟨hkind, hrest⟩ := ha.eq_of_append hb hrest
              obtain ⟨halikes, -, hend⟩ := hfs (g' :: gs) a b r s ha hb hlegibles hgs hrest
              exact ⟨.cons halike halikes, Or.inl hkind, hend⟩

mutual

/-- **The text of a filter tells it apart from all others, whatever follows.** -/
theorem isTold : ∀ f : Filter, f.IsTold
  | .absent => by
      intro g r s hf
      simp [isLegible] at hf
  | .compare path op value => isTold_compare path op value
  | .all fs => (IsGroup.all fs).isTold (areTold fs)
  | .any fs => (IsGroup.any fs).isTold (areTold fs)
  | .deny f => isTold_deny (isTold f)

theorem areTold : ∀ fs : List Filter, AreTold fs
  | [] => areTold_nil
  | f :: fs => areTold_cons (isTold f) (areTold fs)

end

/-! ## Alike filters have one text -/

/-- Without a second member there is nothing between the members. -/
theorem writtenGroup_of_length_le {fs : List Filter} (h : fs.length ≤ 1) (a b : List Char) :
    writtenGroup a fs = writtenGroup b fs := by
  match fs, h with
  | [], _ => rfl
  | [f], _ => rfl

theorem IsGroup.written_eq_cons {f : Filter} {a : List Char} {fs : List Filter}
    (h : IsGroup f a fs) : f.written = '(' :: (writtenGroup a fs ++ [')']) := by
  simpa using h.written_eq []

mutual

theorem Alike.written_eq : ∀ {f g : Filter}, Alike f g → f.written = g.written
  | _, _, .absent => rfl
  | _, _, .compare path op value => rfl
  | _, _, @Alike.group f g a b fs gs hf hg hkind halike => by
      have hmembers : writtenGroup a fs = writtenGroup b gs := by
        rw [← halike.written_eq b]
        rcases hkind with rfl | hshort
        · rfl
        · exact writtenGroup_of_length_le hshort a b
      rw [hf.written_eq_cons, hg.written_eq_cons, hmembers]
  | _, _, .deny h => by rw [written, written, h.written_eq]

theorem AlikeAll.written_eq : ∀ {fs gs : List Filter}, AlikeAll fs gs →
    ∀ a : List Char, writtenGroup a fs = writtenGroup a gs
  | _, _, .nil, _ => rfl
  | _, _, @AlikeAll.cons f g fs gs h hs, a => by
      have hgroup : writtenGroup a fs = writtenGroup a gs := hs.written_eq a
      have hrest : writtenRest a fs = writtenRest a gs := by
        cases hs with
        | nil => rfl
        | cons h' hs' => rw [writtenRest_cons, writtenRest_cons, hgroup]
      rw [writtenGroup_cons, writtenGroup_cons, h.written_eq, hrest]

end

/-! ## Texts -/

/-- The filter can be read off its text: there is none, or it is legible. -/
def IsReadable (f : Filter) : Prop :=
  f = .absent ∨ f.isLegible = true

theorem written_ne_nil {f : Filter} (hf : f.isLegible = true) : f.written ≠ [] := by
  intro h
  apply written_ne_close hf [')'] []
  rw [h]
  rfl

/-- **Two filters have the same text exactly when they are alike.** -/
theorem text_eq_iff_alike {f g : Filter} (hf : f.IsReadable) (hg : g.IsReadable) :
    f.text = g.text ↔ Alike f g := by
  have htext : f.text = g.text ↔ f.written = g.written := by
    rw [text, text, String.ofList_inj]
  rw [htext]
  refine ⟨fun h => ?_, fun h => h.written_eq⟩
  rcases hf with rfl | hf
  · rcases hg with rfl | hg
    · exact .absent
    · exact absurd h.symm (written_ne_nil hg)
  · rcases hg with rfl | hg
    · exact absurd h (written_ne_nil hf)
    · exact (isTold f g [] [] hf hg (by rw [h])).1

/-- Two groups of one member that differ in their kind only. The path of the member looks like a
negation, and its value like the end of a group. -/
theorem text_eq_iff_alike_single :
    (Filter.any [.compare "not" .equal "a) and (b"]).text =
        (Filter.all [.compare "not" .equal "a) and (b"]).text ∧
      Alike (.any [.compare "not" .equal "a) and (b"])
        (.all [.compare "not" .equal "a) and (b"]) := by
  have hany : (Filter.any [.compare "not" .equal "a) and (b"]).IsReadable := Or.inr (by decide)
  have hall : (Filter.all [.compare "not" .equal "a) and (b"]).IsReadable := Or.inr (by decide)
  have hmember : AlikeAll [.compare "not" .equal "a) and (b"] [.compare "not" .equal "a) and (b"] :=
    .cons (.compare "not" .equal "a) and (b") .nil
  have halike : Alike (.any [.compare "not" .equal "a) and (b"])
      (.all [.compare "not" .equal "a) and (b"]) :=
    .group (.any _) (.all _) (Or.inr (Nat.le_refl 1)) hmember
  exact ⟨(text_eq_iff_alike hany hall).2 halike, halike⟩

end Filter

end ScimLookup
