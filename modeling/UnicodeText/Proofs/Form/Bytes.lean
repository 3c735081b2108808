import UnicodeText.Form.Bytes
import UnicodeText.Proofs.Encoding.Boundary
import UnicodeText.Proofs.Encoding.Reencoding
import UnicodeText.Proofs.Form.Equivalence
import UnicodeText.Proofs.Form.Scalars

namespace UnicodeText

namespace Utf8

section InvalidByte

variable {b : UInt8}

theorem lead?_eq_none (h : 0xF8 ≤ b.toNat) : lead? b = none := by
  rw [lead?, if_neg (by omega), if_neg (by omega), if_neg (by omega), if_neg (by omega), if_neg (by omega)]

theorem isContinuation_eq_false (h : 0xF8 ≤ b.toNat) : isContinuation b = false := by
  simp only [isContinuation, Bool.and_eq_false_iff, decide_eq_false_iff_not]
  omega

theorem decode_append_invalid (h : 0xF8 ≤ b.toNat) (before after : List UInt8) :
    Encoding.utf8.decode (before ++ [b] ++ after) =
      Encoding.utf8.decode before ++ [replacement] ++ Encoding.utf8.decode after := by
  -- the byte breaks off what is open before it, and it opens nothing
  have hcut : ∀ u ∈ (b :: after).head?, ¬Encoding.utf8.Continues u := by
    intro u hu
    obtain rfl : b = u := Option.some.inj hu
    exact Bool.eq_false_iff.mp (isContinuation_eq_false h)
  have hbyte : Encoding.utf8.readings (b :: after) =
      .invalid (.leadByte b) 0 :: Encoding.utf8.readings after := by
    rw [Encoding.readings_cons, Encoding.read_utf8, read, lead?_eq_none h]
    rfl
  have hreadings := Encoding.readings_append_of_not_continues (e := .utf8) hcut before
  rw [List.append_assoc, List.singleton_append, Encoding.decode_append_of_readings hreadings, Encoding.decode,
    Encoding.decode, hbyte, List.append_assoc]
  rfl

end InvalidByte

end Utf8

namespace Form

theorem normalize_map_writtenCode (f : Form) (s : List Code) :
    f.normalize (s.map Utf8.writtenCode) = (f.normalize s).map Utf8.writtenCode := by
  -- a code outside the code space and the replacement cut the text in the same way
  induction hlength : s.length using Nat.strongRecOn generalizing s with
  | ind length ih =>
    by_cases hspace : ∀ c ∈ s, InCodeSpace c
    · rw [Utf8.map_writtenCode hspace, Utf8.map_writtenCode (f.inCodeSpace_normalize hspace)]
    · obtain ⟨x, hx, hout⟩ : ∃ x ∈ s, ¬InCodeSpace x := by simpa using hspace
      obtain ⟨before, after, rfl⟩ := List.append_of_mem hx
      rw [List.length_append, List.length_cons] at hlength
      have hbefore := ih before.length (by omega) before rfl
      have hafter := ih after.length (by omega) after rfl
      have hcut := f.normalize_append_of_isInert (isInert_of_not_inCodeSpace hout) before after
      have hreplaced := f.normalize_append_of_isInert isInert_replacement (before.map Utf8.writtenCode)
        (after.map Utf8.writtenCode)
      rw [hbefore, hafter] at hreplaced
      rw [List.append_assoc, List.singleton_append] at hcut hreplaced
      rw [hcut, List.map_append, List.map_append, List.map_append, List.map_cons, List.map_singleton,
        Utf8.writtenCode_of_not_inCodeSpace hout, hreplaced]

theorem normalizeUtf8_encode (f : Form) {s : List Code} (hs : ∀ c ∈ s, InCodeSpace c) :
    f.normalizeUtf8 (Encoding.utf8.encode s) = Encoding.utf8.encode (f.normalize s) := by
  rw [normalizeUtf8, Utf8.decode_encode, Utf8.map_writtenCode hs]

theorem normalizeUtf8_idempotent (f : Form) (bytes : List UInt8) :
    f.normalizeUtf8 (f.normalizeUtf8 bytes) = f.normalizeUtf8 bytes := by
  have hidem (s : List Code) : f.normalize (f.normalize s) = f.normalize s := by
    rw [normalize_eq_ofParts, ofParts_self]
  rw [normalizeUtf8, normalizeUtf8, Utf8.decode_encode, normalize_map_writtenCode, hidem,
    Utf8.encode_map_writtenCode]

theorem normalizeUtf8_isolates_invalid_byte (f : Form) (before after : List UInt8) (b : UInt8) (h : 0xF8 ≤ b.toNat) :
    f.normalizeUtf8 (before ++ [b] ++ after) = f.normalizeUtf8 before ++ [0x3F] ++ f.normalizeUtf8 after := by
  have hnormal := f.normalize_append_of_isInert isInert_replacement (Encoding.utf8.decode before)
    (Encoding.utf8.decode after)
  rw [normalizeUtf8, Utf8.decode_append_invalid h, hnormal, Encoding.encode, List.flatMap_append,
    List.flatMap_append, List.flatMap_singleton]
  rfl

theorem normalizeUtf8_isolates_invalid_byte_broken :
    0xF8 ≤ (0xFF : UInt8).toNat ∧
    nfc.normalizeUtf8 ([0x65, 0xE2, 0x82] ++ [0xFF] ++ [0xAC, 0xCC, 0x81]) =
      nfc.normalizeUtf8 [0x65, 0xE2, 0x82] ++ [0x3F] ++ nfc.normalizeUtf8 [0xAC, 0xCC, 0x81] := by
  have h : 0xF8 ≤ (0xFF : UInt8).toNat := by decide
  exact ⟨h, normalizeUtf8_isolates_invalid_byte nfc _ _ _ h⟩

end Form

end UnicodeText
