import ScimLookup.Bytes.Utf8

/-!
# Nested elements

Certificates and keys are encoded as elements: a tag, a length and a content, which for some tags is
again a run of elements. Each length has one form: below 128 it is one byte, below 256 it follows
the byte 0x81, and from there on it follows the byte 0x82. No content has more than 65534 bytes. A
run must come out even: its last element ends where the content ends.
-/

set_option autoImplicit false

namespace ScimLookup

/-- What a tag says of a content. -/
inductive ElementKind where
  | boolean
  | integer
  | bits
  | octets
  | name
  | sequence
  | field (number : Nat)
deriving DecidableEq, Repr

/-- An element: its kind and its content. -/
structure Element where
  kind : ElementKind
  content : Bytes
deriving DecidableEq, Repr

/-- The kind for a tag. Tags that take more than one byte are none. -/
def ElementKind.ofTag? (tag : Nat) : Option ElementKind :=
  match tag with
  | 0x01 => some .boolean
  | 0x02 => some .integer
  | 0x03 => some .bits
  | 0x04 => some .octets
  | 0x06 => some .name
  | 0x30 => some .sequence
  | _ => if 0xA0 ≤ tag ∧ tag < 0xBF then some (.field (tag - 0xA0)) else none

namespace Element

/-- The length at the front, and what follows it. -/
def length? : Bytes → Option (Nat × Bytes)
  | [] => none
  | 0x81 :: n :: rest => if 0x80 ≤ n then some (n.toNat, rest) else none
  | 0x82 :: m :: n :: rest =>
    let length := m.toNat * 256 + n.toNat
    if 256 ≤ length ∧ length < 65535 then some (length, rest) else none
  | n :: rest => if n < 0x80 then some (n.toNat, rest) else none

/-- The element at the front, and what follows it. -/
def first? : Bytes → Option (Element × Bytes)
  | [] => none
  | tag :: bs => do
    let kind ← ElementKind.ofTag? tag.toNat
    let (n, rest) ← length? bs
    if n ≤ rest.length then some (⟨kind, rest.take n⟩, rest.drop n) else none

/-- A length takes at least one byte. -/
theorem length_lt_of_length? {bs rest : Bytes} {n : Nat} (h : length? bs = some (n, rest)) :
    rest.length < bs.length := by
  fun_cases length? bs <;> grind [length?]

/-- An element takes at least one byte. -/
theorem length_lt_of_first? {bs rest : Bytes} {e : Element} (h : first? bs = some (e, rest)) :
    rest.length < bs.length := by
  cases bs with
  | nil => contradiction
  | cons tag bs =>
    simp only [first?, Option.bind_eq_bind, Option.bind_eq_some_iff] at h
    obtain ⟨kind, -, ⟨n, after⟩, hn, h⟩ := h
    have hlt := length_lt_of_length? hn
    split at h
    · cases h
      simp only [List.length_drop, List.length_cons]
      omega
    · contradiction

/-- All elements of a run. -/
def all? : Bytes → Option (List Element)
  | [] => some []
  | b :: bs =>
    match h : first? (b :: bs) with
    | none => none
    | some (e, rest) =>
      have : rest.length < bs.length + 1 := length_lt_of_first? h
      (all? rest).map (e :: ·)
termination_by bs => bs.length

/-- The elements of a content that is one sequence. -/
def sequence? (bs : Bytes) : Option (List Element) := do
  match ← all? bs with
  | [⟨.sequence, content⟩] => all? content
  | _ => none

/-- The bytes of a content that is one run of bits, none of which is unused. -/
def wholeBits? (bs : Bytes) : Option Bytes := do
  match ← all? bs with
  | [⟨.bits, 0 :: content⟩] => some content
  | _ => none

end Element

end ScimLookup
