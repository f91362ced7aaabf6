import ScimLookup.Command.Word
import ScimLookup.Http.Header
import ScimLookup.Proofs.Bytes.Base64
import ScimLookup.Proofs.Bytes.Utf8
import ScimLookup.Scim.Credentials

/-!
# The basic header

A server that gets the value of a basic authorization takes off the word in front, reads the base64
text and cuts what it spells at the first colon (`credentialsIn?`). It finds the id and the secret
from which the value was made, unless the id has a colon of its own: then the cut comes too early,
and the same value is made from other pairs as well (`basicAuthorization_identifies`).
-/

set_option autoImplicit false

namespace ScimLookup

/-- The word before the base64 text, with the space behind it. -/
def basicMark : List Char := "Basic ".toList

/-- The id and the secret that a server finds in the value of a basic authorization. -/
def credentialsIn? (value : String) : Option (String × String) :=
  if basicMark <+: value.toList then do
    let bs ← Base64.decode? (value.toList.drop basicMark.length)
    let joined ← Utf8.decode? bs
    Command.cutAt? ':' joined
  else none

/-- What the value of a basic authorization tells about an id and a secret. -/
structure Identifies (value id secret : String) : Prop where
  /-- Behind the word stands a base64 text of the joined text, and it is read as that. -/
  encoded : ∃ text : List Char, value.toList = basicMark ++ text ∧
    Base64.IsTextOf (Utf8.ofString (id ++ ":" ++ secret)) text ∧
    Base64.decode? text = some (Utf8.ofString (id ++ ":" ++ secret))
  /-- The pairs with this value are those with this joined text. -/
  shared_iff : ∀ id' secret' : String,
    basicAuthorization id' secret' = value ↔ id' ++ ":" ++ secret' = id ++ ":" ++ secret
  /-- A server finds an id without a colon, and the joined text is kept. -/
  found : ∃ front back : String, credentialsIn? value = some (front, back) ∧
    ':' ∉ front.toList ∧ front ++ ":" ++ back = id ++ ":" ++ secret
  /-- It finds this id and this secret just when the id has no colon. -/
  found_iff : credentialsIn? value = some (id, secret) ↔ ':' ∉ id.toList
  /-- All characters are visible ones or a space. -/
  visible : ∀ c ∈ value.toList, 0x20 ≤ c.toNat ∧ c.toNat < 0x7F
  /-- The value can be sent. -/
  isValue : Header.isValue value = true

theorem toList_basicAuthorization (id secret : String) :
    (basicAuthorization id secret).toList =
      basicMark ++ Base64.encode (Utf8.ofString (id ++ ":" ++ secret)) := by
  rw [basicAuthorization, String.toList_append, Base64.ofBytes, basicMark]
  exact congrArg _ String.toList_ofList

/-- A text around a colon. -/
theorem toList_around (front back : String) :
    (front ++ ":" ++ back).toList = front.toList ++ ':' :: back.toList := by
  rw [String.toList_append, String.toList_append, List.append_assoc]
  rfl

/-- A server cuts the joined text. -/
theorem credentialsIn?_basicAuthorization (id secret : String) :
    credentialsIn? (basicAuthorization id secret) =
      Command.cutAt? ':' (id.toList ++ ':' :: secret.toList) := by
  rw [credentialsIn?, toList_basicAuthorization, if_pos (List.prefix_append _ _), List.drop_left,
    Base64.decode?_encode, ← toList_around]
  exact congrArg (· >>= Command.cutAt? ':') (Utf8.decode?_encode _)

/-- All characters of the value are visible ones or a space. -/
theorem visible_basicAuthorization (id secret : String) :
    ∀ c ∈ (basicAuthorization id secret).toList, 0x20 ≤ c.toNat ∧ c.toNat < 0x7F := by
  intro c hc
  rw [toList_basicAuthorization] at hc
  rcases List.mem_append.1 hc with hc | hc
  · have hmark : (basicMark.all fun c => 0x20 ≤ c.toNat ∧ c.toNat < 0x7F) = true := by decide
    exact of_decide_eq_true (List.all_eq_true.1 hmark c hc)
  · obtain ⟨hlow, hhigh⟩ := Base64.visible_of_mem ((Base64.isTextOf_encode _).mem hc)
    exact ⟨Nat.le_of_lt hlow, hhigh⟩

/-- A text of visible characters can be the value of a header. -/
theorem Header.isValue_of_visible {s : String}
    (h : ∀ c ∈ s.toList, 0x20 ≤ c.toNat ∧ c.toNat < 0x7F) : Header.isValue s = true := by
  rw [isValue, List.all_eq_true]
  intro c hc
  have hne : c ≠ '\x7f' := by
    rintro rfl
    exact absurd (h _ hc).2 (by decide)
  simp [isValueChar, (h c hc).1, hne]

/-- **The header of a basic authorization identifies the credentials.** -/
theorem basicAuthorization_identifies (id secret : String) :
    Identifies (basicAuthorization id secret) id secret where
  encoded := ⟨_, toList_basicAuthorization id secret, Base64.isTextOf_encode _,
    Base64.decode?_encode _⟩
  shared_iff id' secret' := by
    rw [basicAuthorization, basicAuthorization, String.append_right_inj, Base64.ofBytes_inj,
      Utf8.ofString_inj]
  found := by
    -- The text has a colon between id and secret, so there is a first one.
    have hcolon : ':' ∈ id.toList ++ ':' :: secret.toList :=
      List.mem_append_right _ List.mem_cons_self
    obtain ⟨front, back, hcut⟩ := Command.exists_cutAt?_eq hcolon
    obtain ⟨hjoined, hfirst⟩ := Command.cutAt?_eq_some_iff.1 hcut
    refine ⟨front, back, ?_, hfirst, ?_⟩
    · rw [credentialsIn?_basicAuthorization, hcut]
    · rw [← String.toList_inj, toList_around, toList_around, hjoined]
  found_iff := by
    rw [credentialsIn?_basicAuthorization, Command.cutAt?_eq_some_iff]
    exact and_iff_right rfl
  visible := visible_basicAuthorization id secret
  isValue := Header.isValue_of_visible (visible_basicAuthorization id secret)

end ScimLookup
