import UnicodeText.Proofs.Machine.Form
import UnicodeText.Proofs.Machine.Validation

namespace UnicodeText.Machine

/-- Every function comes to its end and finds the value it has in this library, in words that count up to `limit`.
Where a text is decomposed, they count up to the length of its full decomposition, and validation looks as far
as three units ahead. -/
structure IsSafe (limit : Nat) : Prop where
  category_ok : ∀ c, category c = .ok (UnicodeText.category c)
  combiningClass_ok : ∀ c, combiningClass c = .ok (UnicodeText.combiningClass c)
  caseMapping_ok : ∀ c, caseMapping c = .ok (UnicodeText.caseMapping c)
  lowercase_ok : ∀ c, lowercase c = .ok (UnicodeText.lowercase c)
  uppercase_ok : ∀ c, uppercase c = .ok (UnicodeText.uppercase c)
  titlecase_ok : ∀ c, titlecase c = .ok (UnicodeText.titlecase c)
  fullLowercase_ok : ∀ c, fullCase Data.lowercaseSequence lowercase c = .ok (fullLowercase c)
  fullUppercase_ok : ∀ c, fullCase Data.uppercaseSequence uppercase c = .ok (fullUppercase c)
  fullTitlecase_ok : ∀ c, fullCase Data.titlecaseSequence titlecase c = .ok (fullTitlecase c)
  decomposition_ok : ∀ c, decomposition? c = .ok (UnicodeText.decomposition? c)
  decomposedLength_ok : ∀ k c, decomposedLength? limit k c = .ok (UnicodeText.decomposedLength? k c)
  decomposeCode_ok : ∀ k c, decomposeCode limit k c = .ok (UnicodeText.expand k c)
  decompose_ok : ∀ k s, expandedLength k s ≤ limit → decompose limit k s = .ok (UnicodeText.decompose k s)
  canonicalOrder_ok : ∀ s : List Code, s.length ≤ limit → canonicalOrder limit s = .ok (UnicodeText.canonicalOrder s)
  composePair_ok : ∀ first second, composePair first second = .ok (UnicodeText.composePair first second)
  compose_ok : ∀ s : List Code, s.length ≤ limit → compose limit s = .ok (UnicodeText.compose s)
  normalize_ok : ∀ (f : Form) s, expandedLength f.mode s ≤ limit → normalize limit f s = .ok (f.normalize s)
  isNormalized_ok : ∀ (f : Form) s, expandedLength f.mode s ≤ limit → isNormalized limit f s = .ok (f.isNormalized s)
  normalizeString_ok : ∀ (f : Form) s, expandedLength f.mode (codesOf s) ≤ limit →
    normalizeString limit f s = .ok (f.normalizeString s)
  normalizeUtf8_ok : ∀ (f : Form) units, expandedLength f.mode (Encoding.utf8.decode units) ≤ limit →
    normalizeUtf8 limit f units = .ok (f.normalizeUtf8 units)
  isCombiningMark_ok : ∀ c, isCombiningMark c = .ok (UnicodeText.isCombiningMark c)
  stripMarks_ok : ∀ c, stripMarks c = .ok (UnicodeText.stripMarks c)
  deriveStripped_ok : ∀ c, deriveStripped limit c = .ok (UnicodeText.deriveStripped c)
  validate_ok : ∀ (e : Encoding) (units : List e.CodeUnit), units.length + 3 ≤ limit →
    validate limit e units = .ok (e.validate units)
  decodeNext_ok : ∀ e units,
    decodeNext e units = .ok ((e.decoder units).next.1, (e.decoder units).next.2.remaining)
  encodeCode_ok : ∀ e c, encodeCode e c = .ok (e.encodeCode c)
  map_ok : ∀ e f units, map e f units = .ok (e.map f units)
  next_ok : ∀ e (d : Decoder e), next d = .ok d.next
  collect_ok : ∀ e (d : Decoder e), collect d = .ok d.collect
  sizeHint_ok : ∀ e (d : Decoder e), d.remaining.length ≤ limit → sizeHint limit d = .ok d.sizeHint

theorem runs_without_fault {limit : Nat} (hword : 18 * 18 ≤ limit) : IsSafe limit where
  category_ok := category_eq_ok
  combiningClass_ok := combiningClass_eq_ok
  caseMapping_ok := caseMapping_eq_ok
  lowercase_ok := lowercase_eq_ok
  uppercase_ok := uppercase_eq_ok
  titlecase_ok := titlecase_eq_ok
  fullLowercase_ok := fullCase_eq_ok _ lowercase_eq_ok
  fullUppercase_ok := fullCase_eq_ok _ uppercase_eq_ok
  fullTitlecase_ok := fullCase_eq_ok _ titlecase_eq_ok
  decomposition_ok := decomposition?_eq_ok
  decomposedLength_ok k c := decomposedLength?_eq_ok k c (by omega)
  decomposeCode_ok k c := decomposeCode_eq_ok k c (by omega)
  decompose_ok _ _ := decompose_eq_ok
  canonicalOrder_ok _ := canonicalOrder_eq_ok
  composePair_ok := composePair_eq_ok
  compose_ok _ := compose_eq_ok
  normalize_ok _ _ := normalize_eq_ok
  isNormalized_ok _ _ := isNormalized_eq_ok
  normalizeString_ok _ _ := normalizeString_eq_ok
  normalizeUtf8_ok _ _ := normalizeUtf8_eq_ok
  isCombiningMark_ok := isCombiningMark_eq_ok
  stripMarks_ok := stripMarks_eq_ok
  deriveStripped_ok c := deriveStripped_eq_ok c hword
  validate_ok _ _ := validate_eq_ok
  decodeNext_ok := decodeNext_eq_ok
  encodeCode_ok := encodeCode_eq_ok
  map_ok := map_eq_ok
  next_ok _ := next_eq_ok
  collect_ok _ := collect_eq_ok
  sizeHint_ok _ _ := sizeHint_eq_ok

theorem runs_without_fault_in_long_words :
    18 * 18 ≤ 2 ^ 64 - 1 ∧
      decompose (2 ^ 64 - 1) .compatibility [0xFDFA, 0xAC01] =
        .ok [0x635, 0x644, 0x649, 0x20, 0x627, 0x644, 0x644, 0x647, 0x20, 0x639, 0x644, 0x64A, 0x647, 0x20, 0x648,
          0x633, 0x644, 0x645, 0x1100, 0x1161, 0x11A8] ∧
      canonicalOrder (2 ^ 64 - 1) [0x61, 0x301, 0x323] = .ok [0x61, 0x323, 0x301] ∧
      compose (2 ^ 64 - 1) [0x1100, 0x1161, 0x11A8] = .ok [0xAC01] ∧
      normalize (2 ^ 64 - 1) .nfkc [0x1E9B, 0x323] = .ok [0x1E69] ∧
      isNormalized (2 ^ 64 - 1) .nfc [0xAC01] = .ok true ∧
      normalizeUtf8 (2 ^ 64 - 1) .nfc [0x65, 0xCC, 0x81, 0xFF] = .ok [0xC3, 0xA9, 0x3F] ∧
      validate (2 ^ 64 - 1) .utf16 ([0x61, 0xD800] : List UInt16) = .ok (.error (.unpairedSurrogate 1)) := by
  have hsafe : IsSafe (2 ^ 64 - 1) := runs_without_fault (by decide)
  refine ⟨by decide, ?_, ?_, ?_, ?_, ?_, ?_, ?_⟩
  · rw [hsafe.decompose_ok _ _ (by decide +kernel)]
    decide +kernel
  · rw [hsafe.canonicalOrder_ok _ (by decide)]
    decide +kernel
  · rw [hsafe.compose_ok _ (by decide)]
    decide +kernel
  · rw [hsafe.normalize_ok _ _ (by decide +kernel)]
    decide +kernel
  · rw [hsafe.isNormalized_ok _ _ (by decide +kernel)]
    decide +kernel
  · rw [hsafe.normalizeUtf8_ok _ _ (by decide +kernel)]
    decide +kernel
  · rw [hsafe.validate_ok .utf16 _ (by decide)]
    decide +kernel

/-- U+FDFA expands to eighteen codes, which a count of them need not hold where the text itself fits into memory. -/
theorem decompose_overflows_on_long_text :
    (4 * (List.replicate 238609295 (0xFDFA : Code)).length < 2 ^ 31 ∧
      decompose (2 ^ 32 - 1) .compatibility (List.replicate 238609295 0xFDFA) = .error .overflow) ∧
    (4 * (List.replicate 1024819115206086201 (0xFDFA : Code)).length < 2 ^ 63 ∧
      decompose (2 ^ 64 - 1) .compatibility (List.replicate 1024819115206086201 0xFDFA) = .error .overflow) := by
  have hcount : (UnicodeText.decomposedLength? .compatibility 0xFDFA).getD 1 = 18 := by decide +kernel
  simp only [List.length_replicate]
  refine ⟨⟨by decide, ?_⟩, by decide, ?_⟩
  · rw [decompose_eq_overflow_iff (by decide), expandedLength_replicate, hcount]
    decide
  · rw [decompose_eq_overflow_iff (by decide), expandedLength_replicate, hcount]
    decide

end UnicodeText.Machine
