/-
Texts as bytes.

The bytes of a text are read as that text (`decode_encode`), and no other bytes
are (`encode_of_decode`).
-/
import BranchCoverage.Text.Utf8

namespace BranchCoverage.Text.Utf8

theorem length_encode_text (s : String) : (encode s).length = s.utf8ByteSize :=
  rfl

/-- A text is read from its bytes. -/
theorem decode_encode (s : String) : decode (encode s) = .ok s := by
  have hdata : (⟨(encode s).toArray⟩ : ByteArray) = s.toByteArray :=
    congrArg ByteArray.mk Array.toArray_toList
  have htext : String.fromUTF8? s.toByteArray = some s := by
    rw [String.fromUTF8?, dif_pos s.isValidUTF8]
    rfl
  rw [decode, hdata, htext]

/-- Bytes that are read as a text are the bytes of that text. -/
theorem encode_of_decode {bytes : List UInt8} {s : String} (h : decode bytes = .ok s) :
    encode s = bytes := by
  rw [decode] at h
  split at h
  · next text htext =>
    cases h
    rw [String.fromUTF8?] at htext
    split at htext
    · cases htext
      exact List.toList_toArray
    · cases htext
  · cases h

end BranchCoverage.Text.Utf8
