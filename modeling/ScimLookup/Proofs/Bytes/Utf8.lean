import ScimLookup.Bytes.Utf8

/-!
# Text that is written reads back

The reading machine, started between characters, reports each character whose bytes it is given and
is between characters again (`run_encodeChar`). So the bytes of a text read back as this text, both
by the reading that may fail (`toString?_ofString`) and by the one that may not
(`toString_ofString`). A byte that is a character of its own is read as this character even behind
damaged text (`decode_append`).
-/

set_option autoImplicit false

namespace ScimLookup.Utf8

/-! ## Steps -/

theorem run_cons (s : State) (b : UInt8) (bs : Bytes) :
    run s (b :: bs) = (step s b).1 ++ run (step s b).2 bs := by
  cases s with
  | between => rfl
  | inside owed low high bits => rfl

/-- Between characters a byte opens one. -/
theorem step_between (b : UInt8) : step .between b = open1 b := rfl

/-- Inside a character a byte that is out of range damages it, and opens another one. -/
theorem step_inside_of_not {b : UInt8} {low high : Nat} (h : ¬ (low ≤ b.toNat ∧ b.toNat ≤ high))
    (owed bits : Nat) :
    step (.inside owed low high bits) b = (none :: (open1 b).1, (open1 b).2) :=
  if_neg h

theorem open1_of_char {b : UInt8} {c : Char} {s : State} (h : opening b.toNat = (some c, s)) :
    open1 b = ([some c], s) := by
  rw [open1, h]

theorem open1_of_inside {b : UInt8} {owed low high bits : Nat}
    (h : opening b.toNat = (none, .inside owed low high bits)) :
    open1 b = ([], .inside owed low high bits) := by
  rw [open1, h]

theorem opening_single {n : Nat} (h : n < 0x80) : opening n = (some (Char.ofNat n), .between) :=
  if_pos h

/-- A byte below the first continuation byte is a character of its own. -/
theorem run_single {b : UInt8} (h : b.toNat < 0x80) (bs : Bytes) :
    run .between (b :: bs) = some (Char.ofNat b.toNat) :: run .between bs := by
  rw [run_cons, step_between, open1_of_char (opening_single h), List.singleton_append]

/-- A byte that opens a longer character. -/
theorem run_opening {b : UInt8} {owed low high bits : Nat}
    (h : opening b.toNat = (none, .inside owed low high bits)) (bs : Bytes) :
    run .between (b :: bs) = run (.inside owed low high bits) bs := by
  rw [run_cons, step_between, open1_of_inside h, List.nil_append]

/-- A continuation byte that is not the last one. -/
theorem run_inside_succ {b : UInt8} {owed low high : Nat} (h : low ≤ b.toNat ∧ b.toNat ≤ high)
    (bits : Nat) (bs : Bytes) :
    run (.inside (owed + 1) low high bits) (b :: bs) =
      run (.inside owed 0x80 0xBF (bits * 64 + (b.toNat - 0x80))) bs := by
  have hstep : step (.inside (owed + 1) low high bits) b =
      ([], .inside owed 0x80 0xBF (bits * 64 + (b.toNat - 0x80))) := if_pos h
  rw [run_cons, hstep, List.nil_append]

/-- The last continuation byte. -/
theorem run_inside_zero {b : UInt8} {low high : Nat} (h : low ≤ b.toNat ∧ b.toNat ≤ high)
    (bits : Nat) (bs : Bytes) :
    run (.inside 0 low high bits) (b :: bs) =
      some (Char.ofNat (bits * 64 + (b.toNat - 0x80))) :: run .between bs := by
  have hstep : step (.inside 0 low high bits) b =
      ([some (Char.ofNat (bits * 64 + (b.toNat - 0x80)))], .between) := if_pos h
  rw [run_cons, hstep, List.singleton_append]

theorem opening_two : ∀ b < 0xE0, 0xC2 ≤ b → opening b = (none, .inside 0 0x80 0xBF (b - 0xC0)) := by
  decide +kernel

theorem opening_three : ∀ b < 0xF0, 0xE0 ≤ b →
    opening b = (none, .inside 1 (if b = 0xE0 then 0xA0 else 0x80)
      (if b = 0xED then 0x9F else 0xBF) (b - 0xE0)) := by
  decide +kernel

theorem opening_four : ∀ b < 0xF5, 0xF0 ≤ b →
    opening b = (none, .inside 2 (if b = 0xF0 then 0x90 else 0x80)
      (if b = 0xF4 then 0x8F else 0xBF) (b - 0xF0)) := by
  decide +kernel

/-! ## Characters -/

/-- The number of a character is none of those that stand for halves of pairs. -/
theorem toNat_lt (c : Char) : c.toNat < 0xD800 ∨ 0xDFFF < c.toNat ∧ c.toNat < 0x110000 :=
  c.valid

/-- The number of a byte that is made from a number below 256. -/
theorem toNat_ofNat {n : Nat} (h : n < 0x100) : (UInt8.ofNat n).toNat = n := by
  rw [UInt8.toNat_ofNat']
  exact Nat.mod_eq_of_lt h

/-- Two bytes are read as one character. -/
theorem run_pair {a b : Nat} (ha : 0xC2 ≤ a ∧ a < 0xE0) (hb : 0x80 ≤ b ∧ b < 0xC0) (bs : Bytes) :
    run .between (UInt8.ofNat a :: UInt8.ofNat b :: bs) =
      some (Char.ofNat ((a - 0xC0) * 64 + (b - 0x80))) :: run .between bs := by
  have hna : (UInt8.ofNat a).toNat = a := toNat_ofNat (by omega)
  have hnb : (UInt8.ofNat b).toNat = b := toNat_ofNat (by omega)
  have hopen := opening_two a (by omega) (by omega)
  rw [← hna] at hopen
  rw [run_opening hopen, run_inside_zero (by omega), hna, hnb]

/-- The second byte is in the range that the first one leaves it. -/
theorem second_range {a b first last low high : Nat} (hb : 0x80 ≤ b ∧ b < 0xC0)
    (hlow : a = first → low ≤ b) (hhigh : a = last → b ≤ high) :
    (if a = first then low else 0x80) ≤ b ∧ b ≤ if a = last then high else 0xBF := by
  refine ⟨?_, ?_⟩
  · split
    · exact hlow ‹_›
    · omega
  · split
    · exact hhigh ‹_›
    · omega

/-- Three bytes are read as one character, unless they spell a shorter one or half of a pair. -/
theorem run_triple {a b c : Nat} (ha : 0xE0 ≤ a ∧ a < 0xF0) (hb : 0x80 ≤ b ∧ b < 0xC0)
    (hc : 0x80 ≤ c ∧ c < 0xC0) (hlow : a = 0xE0 → 0xA0 ≤ b) (hhigh : a = 0xED → b ≤ 0x9F)
    (bs : Bytes) :
    run .between (UInt8.ofNat a :: UInt8.ofNat b :: UInt8.ofNat c :: bs) =
      some (Char.ofNat (((a - 0xE0) * 64 + (b - 0x80)) * 64 + (c - 0x80))) ::
        run .between bs := by
  have hna : (UInt8.ofNat a).toNat = a := toNat_ofNat (by omega)
  have hnb : (UInt8.ofNat b).toNat = b := toNat_ofNat (by omega)
  have hnc : (UInt8.ofNat c).toNat = c := toNat_ofNat (by omega)
  have hopen := opening_three a (by omega) (by omega)
  rw [← hna] at hopen
  have hrange : (if (UInt8.ofNat a).toNat = 0xE0 then 0xA0 else 0x80) ≤ (UInt8.ofNat b).toNat ∧
      (UInt8.ofNat b).toNat ≤ if (UInt8.ofNat a).toNat = 0xED then 0x9F else 0xBF := by
    rw [hna, hnb]
    exact second_range hb hlow hhigh
  rw [run_opening hopen, run_inside_succ hrange, run_inside_zero (by omega), hna, hnb, hnc]

/-- Four bytes are read as one character, unless they spell a shorter one or none. -/
theorem run_quadruple {a b c d : Nat} (ha : 0xF0 ≤ a ∧ a < 0xF5) (hb : 0x80 ≤ b ∧ b < 0xC0)
    (hc : 0x80 ≤ c ∧ c < 0xC0) (hd : 0x80 ≤ d ∧ d < 0xC0) (hlow : a = 0xF0 → 0x90 ≤ b)
    (hhigh : a = 0xF4 → b ≤ 0x8F) (bs : Bytes) :
    run .between
        (UInt8.ofNat a :: UInt8.ofNat b :: UInt8.ofNat c :: UInt8.ofNat d :: bs) =
      some (Char.ofNat ((((a - 0xF0) * 64 + (b - 0x80)) * 64 + (c - 0x80)) * 64 + (d - 0x80))) ::
        run .between bs := by
  have hna : (UInt8.ofNat a).toNat = a := toNat_ofNat (by omega)
  have hnb : (UInt8.ofNat b).toNat = b := toNat_ofNat (by omega)
  have hnc : (UInt8.ofNat c).toNat = c := toNat_ofNat (by omega)
  have hnd : (UInt8.ofNat d).toNat = d := toNat_ofNat (by omega)
  have hopen := opening_four a (by omega) (by omega)
  rw [← hna] at hopen
  have hrange : (if (UInt8.ofNat a).toNat = 0xF0 then 0x90 else 0x80) ≤ (UInt8.ofNat b).toNat ∧
      (UInt8.ofNat b).toNat ≤ if (UInt8.ofNat a).toNat = 0xF4 then 0x8F else 0xBF := by
    rw [hna, hnb]
    exact second_range hb hlow hhigh
  rw [run_opening hopen, run_inside_succ hrange, run_inside_succ (by omega),
    run_inside_zero (by omega), hna, hnb, hnc, hnd]

/-- **The bytes of a character are read as this character**, whatever follows. -/
theorem run_encodeChar (c : Char) (bs : Bytes) :
    run .between (String.utf8EncodeChar c ++ bs) = some c :: run .between bs := by
  have hvalid := toNat_lt c
  have hval : c.val.toNat = c.toNat := rfl
  have hback : Char.ofNat c.toNat = c := Char.ofNat_toNat c
  rw [String.utf8EncodeChar]
  simp only [hval]
  -- One case for each number of bytes; the arithmetic puts the bits back together.
  by_cases h₁ : c.toNat ≤ 0x7F
  · have hb : (UInt8.ofNat c.toNat).toNat = c.toNat := toNat_ofNat (by omega)
    rw [if_pos h₁, List.singleton_append, run_single (by omega), hb, hback]
  · -- Two bytes share the bits, the first with the high five and the second with the low six.
    rw [if_neg h₁]
    by_cases h₂ : c.toNat ≤ 0x7FF
    · have hbits : (c.toNat / 64 % 0x20 + 0xC0 - 0xC0) * 64 + (c.toNat % 0x40 + 0x80 - 0x80) =
          c.toNat := by omega
      rw [if_pos h₂]
      refine (run_pair (by omega) (by omega) bs).trans ?_
      rw [hbits, hback]
    · rw [if_neg h₂]
      by_cases h₃ : c.toNat ≤ 0xFFFF
      · have hbits : ((c.toNat / 4096 % 0x10 + 0xE0 - 0xE0) * 64 +
            (c.toNat / 64 % 0x40 + 0x80 - 0x80)) * 64 + (c.toNat % 0x40 + 0x80 - 0x80) =
            c.toNat := by omega
        rw [if_pos h₃]
        refine (run_triple (by omega) (by omega) (by omega) (by omega) (by omega) bs).trans ?_
        rw [hbits, hback]
      · have hbits : (((c.toNat / 262144 % 0x08 + 0xF0 - 0xF0) * 64 +
            (c.toNat / 4096 % 0x40 + 0x80 - 0x80)) * 64 +
            (c.toNat / 64 % 0x40 + 0x80 - 0x80)) * 64 + (c.toNat % 0x40 + 0x80 - 0x80) =
            c.toNat := by omega
        rw [if_neg h₃]
        refine (run_quadruple (by omega) (by omega) (by omega) (by omega) (by omega) (by omega)
          bs).trans ?_
        rw [hbits, hback]

/-! ## Texts -/

theorem encode_cons (c : Char) (cs : List Char) :
    encode (c :: cs) = String.utf8EncodeChar c ++ encode cs :=
  List.flatMap_cons

theorem encode_append (cs ds : List Char) : encode (cs ++ ds) = encode cs ++ encode ds :=
  List.flatMap_append

/-- A character below the first continuation byte is one byte. -/
theorem encodeChar_of_lt {c : Char} (h : c.toNat < 0x80) :
    String.utf8EncodeChar c = [UInt8.ofNat c.toNat] := by
  have hval : c.val.toNat = c.toNat := rfl
  rw [String.utf8EncodeChar]
  simp only [hval]
  rw [if_pos (by omega)]

/-- The bytes of any other character are all beyond the characters of one byte. -/
theorem le_of_mem_encodeChar {c : Char} (h : 0x80 ≤ c.toNat) {b : UInt8}
    (hb : b ∈ String.utf8EncodeChar c) : 0x80 ≤ b.toNat := by
  have hvalid := toNat_lt c
  have hval : c.val.toNat = c.toNat := rfl
  have hbyte : ∀ n, 0x80 ≤ n → n < 0x100 → b = UInt8.ofNat n → 0x80 ≤ b.toNat := by
    intro n hlow hhigh heq
    rw [heq, toNat_ofNat hhigh]
    exact hlow
  -- Every byte of a longer character has its highest bit set.
  rw [String.utf8EncodeChar] at hb
  simp only [hval] at hb
  split at hb
  · omega
  · split at hb
    · simp only [List.mem_cons, List.not_mem_nil, or_false] at hb
      rcases hb with hb | hb
      · exact hbyte _ (by omega) (by omega) hb
      · exact hbyte _ (by omega) (by omega) hb
    · split at hb
      · simp only [List.mem_cons, List.not_mem_nil, or_false] at hb
        rcases hb with hb | hb | hb
        · exact hbyte _ (by omega) (by omega) hb
        · exact hbyte _ (by omega) (by omega) hb
        · exact hbyte _ (by omega) (by omega) hb
      · simp only [List.mem_cons, List.not_mem_nil, or_false] at hb
        rcases hb with hb | hb | hb | hb
        · exact hbyte _ (by omega) (by omega) hb
        · exact hbyte _ (by omega) (by omega) hb
        · exact hbyte _ (by omega) (by omega) hb
        · exact hbyte _ (by omega) (by omega) hb

/-- Every character has a byte, so characters that are left out show in the length. -/
theorem length_encode_sublist {cs ds : List Char} (h : cs.Sublist ds) :
    (encode cs).length + ds.length ≤ (encode ds).length + cs.length := by
  induction h with
  | slnil => exact Nat.le_refl 0
  | @cons cs ds d h ih =>
      have hpos : 0 < (String.utf8EncodeChar d).length :=
        List.length_pos_iff.2 String.utf8EncodeChar_ne_nil
      rw [encode_cons, List.length_append, List.length_cons]
      omega
  | @cons_cons cs ds d h ih =>
      rw [encode_cons, encode_cons, List.length_append, List.length_append, List.length_cons,
        List.length_cons]
      omega

/-- **The bytes of a text are read as its characters.** -/
theorem run_encode (cs : List Char) : run .between (encode cs) = cs.map some := by
  induction cs with
  | nil => rfl
  | cons c cs ih => rw [encode_cons, run_encodeChar, ih, List.map_cons]

theorem decode_encode (cs : List Char) : decode (encode cs) = cs := by
  rw [decode, run_encode, List.map_map]
  exact List.map_id cs

theorem decode?_encode (cs : List Char) : decode? (encode cs) = some cs := by
  rw [decode?, run_encode]
  -- No stretch is damaged, so none of the characters is missing.
  induction cs with
  | nil => rfl
  | cons c cs ih =>
      rw [List.map_cons, List.mapM_cons, ih]
      rfl

theorem toString_encode (cs : List Char) : toString (encode cs) = .ofList cs := by
  rw [toString, decode_encode]

theorem toString?_ofString (s : String) : toString? (ofString s) = some s := by
  rw [toString?, ofString, decode?_encode, Option.map_some, String.ofList_toList]

/-- Different texts have different bytes. -/
theorem ofString_inj {s t : String} : ofString s = ofString t ↔ s = t := by
  constructor
  · intro h
    have hread : toString? (ofString s) = toString? (ofString t) := by rw [h]
    simpa only [toString?_ofString, Option.some.injEq] using hread
  · exact congrArg ofString

/-! ## Last bytes -/

/-- Inside a character only continuation bytes are taken. -/
def State.IsProper : State → Prop
  | .between => True
  | .inside _ low _ _ => 0x80 ≤ low

theorem isProper_opening (n : Nat) : (opening n).2.IsProper := by
  unfold opening
  repeat' split
  all_goals simp [State.IsProper]

theorem isProper_open1 (b : UInt8) : (open1 b).2.IsProper := by
  have hopening := isProper_opening b.toNat
  unfold open1
  split
  · rename_i c s heq
    rw [heq] at hopening
    exact hopening
  · trivial
  · rename_i s hs heq
    rw [heq] at hopening
    exact hopening

theorem isProper_step {s : State} (hs : s.IsProper) (b : UInt8) : (step s b).2.IsProper := by
  cases s with
  | between => exact isProper_open1 b
  | inside owed low high bits =>
      rw [step]
      split
      · cases owed with
        | zero => trivial
        | succ n => exact Nat.le_refl 0x80
      · exact isProper_open1 b

/-- A byte that is a character of its own is read as this character, whatever comes before it. -/
theorem run_append {b : UInt8} (hb : b.toNat < 0x80) {s : State} (hs : s.IsProper) (bs : Bytes) :
    ∃ out, run s (bs ++ [b]) = out ++ [some (Char.ofNat b.toNat)] := by
  induction bs generalizing s with
  | nil =>
      cases s with
      | between => exact ⟨[], run_single hb []⟩
      | inside owed low high bits =>
          -- The byte is no continuation byte, so a damaged character comes before it.
          have hlow : ¬ (low ≤ b.toNat ∧ b.toNat ≤ high) := by
            intro h
            have hproper : 0x80 ≤ low := hs
            omega
          refine ⟨[none], ?_⟩
          rw [List.nil_append, run_cons, step_inside_of_not hlow, open1_of_char (opening_single hb)]
          rfl
  | cons c bs ih =>
      obtain ⟨out, hout⟩ := ih (isProper_step hs c)
      refine ⟨(step s c).1 ++ out, ?_⟩
      rw [List.cons_append, run_cons, hout, List.append_assoc]

theorem decode_append {b : UInt8} (hb : b.toNat < 0x80) (bs : Bytes) :
    ∃ cs, decode (bs ++ [b]) = cs ++ [Char.ofNat b.toNat] := by
  obtain ⟨out, hout⟩ := run_append hb (s := .between) trivial bs
  exact ⟨_, by rw [decode, hout, List.map_append]; rfl⟩

/-! ## Order -/

/-- Texts whose characters are one byte each have the order of their bytes. -/
theorem encode_lt_encode {cs ds : List Char} (hcs : ∀ c ∈ cs, c.toNat < 0x80)
    (hds : ∀ d ∈ ds, d.toNat < 0x80) (h : cs < ds) : encode cs < encode ds := by
  induction cs generalizing ds with
  | nil =>
      cases ds with
      | nil => exact absurd h (List.not_lt_nil [])
      | cons d ds =>
          rw [encode_cons, encodeChar_of_lt (hds d List.mem_cons_self)]
          exact List.nil_lt_cons _ _
  | cons c cs ih =>
      cases ds with
      | nil => exact absurd h (List.not_lt_nil _)
      | cons d ds =>
          obtain ⟨hc, hcs'⟩ := List.forall_mem_cons.1 hcs
          obtain ⟨hd, hds'⟩ := List.forall_mem_cons.1 hds
          rw [encode_cons, encode_cons, encodeChar_of_lt hc, encodeChar_of_lt hd,
            List.singleton_append, List.singleton_append, List.cons_lt_cons_iff]
          -- The first characters decide, or else those behind them.
          rcases List.cons_lt_cons_iff.1 h with hlt | ⟨rfl, hlt⟩
          · refine Or.inl (UInt8.lt_iff_toNat_lt.2 ?_)
            rw [toNat_ofNat (by omega), toNat_ofNat (by omega)]
            exact hlt
          · exact Or.inr ⟨rfl, ih hcs' hds' hlt⟩

end ScimLookup.Utf8
