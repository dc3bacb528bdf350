/-!
# Characters as bytes

UTF-8 over plain lists. Decoding is strict: overlong forms, surrogates and values past
U+10FFFF are refused, so `decode` accepts exactly what `encode` produces.
-/
namespace Gridwalk.Utf8

def encode (text : List Char) : List UInt8 := text.flatMap String.utf8EncodeChar

def decode (bytes : List UInt8) : Option (List Char) :=
  bytes.toByteArray.utf8Decode?.map Array.toList

def invalid : String := "stream did not contain valid UTF-8"

@[simp] theorem encode_nil : encode [] = [] := rfl

@[simp] theorem encode_cons (c : Char) (text : List Char) :
    encode (c :: text) = String.utf8EncodeChar c ++ encode text := rfl

@[simp] theorem encode_append (s t : List Char) : encode (s ++ t) = encode s ++ encode t := by
  simp [encode]

theorem toByteArray_encode (text : List Char) : (encode text).toByteArray = text.utf8Encode := rfl

@[simp] theorem decode_encode (text : List Char) : decode (encode text) = some text := by
  simp [decode, toByteArray_encode]

theorem decode_eq_some_iff {bytes : List UInt8} {text : List Char} :
    decode bytes = some text ↔ bytes = encode text := by
  constructor
  · intro h
    obtain ⟨chars, hchars, rfl⟩ := Option.map_eq_some_iff.mp h
    have hsome : bytes.toByteArray.utf8Decode?.isSome := by simp [hchars]
    have hback := ByteArray.utf8Encode_get_utf8Decode? (h := hsome)
    simp only [hchars, Option.get_some] at hback
    have hdata := congrArg (fun b => b.data.toList) hback
    simpa [List.utf8Encode, encode] using hdata.symm
  · rintro rfl
    exact decode_encode text

theorem decode_eq_none_iff {bytes : List UInt8} :
    decode bytes = none ↔ ∀ text, bytes ≠ encode text := by
  simp [Option.eq_none_iff_forall_ne_some, decode_eq_some_iff]

theorem encode_eq_nil_iff {text : List Char} : encode text = [] ↔ text = [] := by
  constructor
  · intro h
    have hdecode := decode_encode text
    rw [h] at hdecode
    exact (Option.some.inj hdecode).symm
  · rintro rfl
    rfl

end Gridwalk.Utf8
