import UnicodeText.Proofs.Case.Scalars
import UnicodeText.Proofs.Form.Bytes
import UnicodeText.Proofs.Mark.Strip

namespace UnicodeText

theorem strings_keep_every_code (s : List Code) (hs : ∀ c ∈ s, IsScalar c) :
    codesOf (textOf s) = s ∧
    (∀ f : Form, (∀ c ∈ f.normalize s, IsScalar c) ∧
      codesOf (f.normalizeString (textOf s)) = f.normalize s ∧
      f.normalizeUtf8 (Encoding.utf8.encode s) = Encoding.utf8.encode (codesOf (f.normalizeString (textOf s)))) ∧
    codesOf (lowercaseString (textOf s)) = s.flatMap (fun c => (fullLowercase c).codes) ∧
    codesOf (uppercaseString (textOf s)) = s.flatMap (fun c => (fullUppercase c).codes) ∧
    codesOf (stripString (textOf s)) = (s.filter fun c => !isCombiningMark c).map stripMarks := by
  have htext : codesOf (textOf s) = s := codesOf_textOf hs
  refine ⟨htext, ?_, ?_, ?_, ?_⟩
  · intro f
    have hnormal : codesOf (f.normalizeString (textOf s)) = f.normalize s := by
      rw [f.codesOf_normalizeString, htext]
    refine ⟨f.isScalar_normalize hs, hnormal, ?_⟩
    rw [hnormal, f.normalizeUtf8_encode fun c hc => (hs c hc).1]
  · rw [codesOf_lowercaseString, htext]
    rfl
  · rw [codesOf_uppercaseString, htext]
    rfl
  · rw [codesOf_stripString, htext]
    rfl

def mixedText : List Code := [0xDF, 0x130, 0x1E9B, 0x323, 0xAC01]

theorem strings_keep_every_code_mixed :
    (∀ c ∈ mixedText, IsScalar c) ∧ codesOf (textOf mixedText) = mixedText ∧
    codesOf (Form.nfkc.normalizeString (textOf mixedText)) = Form.nfkc.normalize mixedText ∧
    Form.nfkc.normalizeUtf8 (Encoding.utf8.encode mixedText) =
      Encoding.utf8.encode (codesOf (Form.nfkc.normalizeString (textOf mixedText))) ∧
    codesOf (lowercaseString (textOf mixedText)) = mixedText.flatMap (fun c => (fullLowercase c).codes) ∧
    codesOf (uppercaseString (textOf mixedText)) = mixedText.flatMap (fun c => (fullUppercase c).codes) ∧
    codesOf (stripString (textOf mixedText)) = (mixedText.filter fun c => !isCombiningMark c).map stripMarks := by
  have hall : mixedText.all (fun c => decide (IsScalar c)) = true := by decide
  have hs : ∀ c ∈ mixedText, IsScalar c := fun c hc => of_decide_eq_true (List.all_eq_true.mp hall c hc)
  obtain ⟨htext, hnormal, hcases⟩ := strings_keep_every_code mixedText hs
  exact ⟨hs, htext, (hnormal .nfkc).2.1, (hnormal .nfkc).2.2, hcases⟩

end UnicodeText
