/-!
# Strings and their UTF-8 bytes

`encode` and `decode?` are the two directions between a string and the byte list of its UTF-8
form: what was encoded decodes to the same string.
-/

namespace StakingGateway.Utf8

def encode (text : String) : List UInt8 :=
  text.toUTF8.data.toList

/-- The string whose UTF-8 form the bytes are, if they are one. -/
def decode? (bytes : List UInt8) : Option String :=
  String.fromUTF8? (ByteArray.mk bytes.toArray)

theorem decode?_encode (text : String) : decode? (encode text) = some text := by
  have h : text.toByteArray.IsValidUTF8 := text.isValidUTF8
  simp [decode?, encode, String.fromUTF8?, String.toUTF8, String.fromUTF8, h]

theorem encode_inj {s t : String} : encode s = encode t ↔ s = t := by
  constructor
  · intro h
    have hs := decode?_encode s
    rw [h, decode?_encode] at hs
    exact (Option.some.inj hs).symm
  · rintro rfl
    rfl

end StakingGateway.Utf8
