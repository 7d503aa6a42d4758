set_option autoImplicit false

namespace Shared

/-- Encryption that notices a wrong key: a text becomes a ciphertext of its size and a tag. -/
structure Cipher (Key : Type) where
  encrypt : Key → (iv : List UInt8) → (text : String) → List UInt8 × List UInt8
  decrypt : Key → (iv tag ciphertext : List UInt8) → Option String

namespace Cipher

variable {Key : Type} {cipher : Cipher Key}

/-- What the algorithm promises. -/
structure Lawful (cipher : Cipher Key) : Prop where
  inverts : ∀ key iv text, cipher.decrypt key iv (cipher.encrypt key iv text).2
    (cipher.encrypt key iv text).1 = some text
  authenticates : ∀ key other iv text, key ≠ other →
    cipher.decrypt other iv (cipher.encrypt key iv text).2 (cipher.encrypt key iv text).1 = none
  ciphertext_length : ∀ key iv text, (cipher.encrypt key iv text).1.length = text.utf8ByteSize
  tag_length : ∀ key iv text, (cipher.encrypt key iv text).2.length = 16

theorem Lawful.decrypt_encrypt (lawful : cipher.Lawful) (key other : Key) (iv : List UInt8)
    (text : String) :
    cipher.decrypt other iv (cipher.encrypt key iv text).2 (cipher.encrypt key iv text).1 =
        some text ↔
      key = other := by
  constructor
  · intro opened
    apply Classical.byContradiction
    intro different
    cases (lawful.authenticates key other iv text different).symm.trans opened
  · rintro rfl
    exact lawful.inverts key iv text

-- The tag repeats the key: enough to run a program that relies on the laws.
def plain : Cipher UInt8 where
  encrypt key _ text := (text.toByteArray.data.toList, List.replicate 16 key)
  decrypt key _ tag ciphertext :=
    if tag = List.replicate 16 key then String.fromUTF8? ⟨ciphertext.toArray⟩ else none

theorem plain_lawful : plain.Lawful where
  inverts key iv text := by
    have whole : (⟨text.toByteArray.data.toList.toArray⟩ : ByteArray) = text.toByteArray := rfl
    simp only [plain, if_true, whole]
    exact dif_pos text.isValidUTF8
  authenticates key other iv text different := by
    simp [plain, different]
  ciphertext_length key iv text := by
    rfl
  tag_length key iv text := by
    simp [plain]

end Cipher

end Shared
