import Intercept.Bytes

/-!
# Text as octets

Names travel as UTF-8, and every length that a format states for a text counts its octets. Main
statements: `decode?_encode` and `eq_encode_of_decode?`, so that a text and its octets determine
each other and the octets that are no text are exactly those that `decode?` refuses.
-/

namespace Intercept.Utf8

def encode (s : String) : Bytes := s.toByteArray.data.toList

/-- The text that the octets spell, `none` if they are not well-formed. -/
def decode? (bytes : Bytes) : Option String := String.fromUTF8? ⟨bytes.toArray⟩

def size (s : String) : Nat := (encode s).length

theorem decode?_encode (s : String) : decode? (encode s) = some s := by
  have same : (⟨(encode s).toArray⟩ : ByteArray) = s.toByteArray := by simp [encode]
  simp only [decode?, String.fromUTF8?, same]
  rw [dif_pos s.isValidUTF8]
  rfl

/-- Octets that spell a text are the octets of that text. -/
theorem eq_encode_of_decode? {bytes : Bytes} {s : String} (h : decode? bytes = some s) :
    encode s = bytes := by
  simp only [decode?, String.fromUTF8?] at h
  split at h
  · cases h
    simp [encode, String.fromUTF8]
  · cases h

theorem encode_injective {s t : String} (h : encode s = encode t) : s = t := by
  have := decode?_encode s
  rw [h, decode?_encode] at this
  exact (Option.some.inj this).symm

end Intercept.Utf8
