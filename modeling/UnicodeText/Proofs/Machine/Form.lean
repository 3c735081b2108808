import UnicodeText.Form.Bytes
import UnicodeText.Proofs.Machine.CanonicalOrder
import UnicodeText.Proofs.Machine.Composition
import UnicodeText.Proofs.Machine.Decomposition
import UnicodeText.Proofs.Machine.Encoding

namespace UnicodeText.Machine

section Definitions

variable (limit : Nat)

def decompose (k : Mode) (s : List Code) : Run (List Code) := do
  let expanded ← expandAll limit k s
  canonicalOrder limit expanded

def normalize (f : Form) (s : List Code) : Run (List Code) := do
  let decomposed ← decompose limit f.mode s
  if f.isComposing then compose limit decomposed else return decomposed

def isNormalized (f : Form) (s : List Code) : Run Bool := do
  let normalized ← normalize limit f s
  return normalized == s

def normalizeString (f : Form) (s : String) : Run String := do
  let normalized ← normalize limit f (codesOf s)
  return textOf normalized

def normalizeUtf8 (f : Form) (units : List UInt8) : Run (List UInt8) := do
  let codes ← decode .utf8 units
  let normalized ← normalize limit f codes
  encode .utf8 normalized

def deriveStripped (c : Code) : Run Code := do
  let decomposed ← normalize limit .nfd [c]
  if ← decomposed.anyM isCombiningMark then do
    let bases ← decomposed.filterM fun x => return !(← isCombiningMark x)
    match ← normalize limit .nfc bases with
    | [base] => return base
    | _ => return c
  else return c

end Definitions

variable {limit : Nat} {s : List Code}

theorem decompose_eq_ok {k : Mode} (hlimit : expandedLength k s ≤ limit) :
    decompose limit k s = .ok (UnicodeText.decompose k s) := by
  rw [decompose, expandAll_eq_ok hlimit, ok_bind, canonicalOrder_eq_ok (expandedLength_eq k s ▸ hlimit)]
  rfl

/-- The words are long enough to count the expansion of one code, so that only the sum can be too long. -/
theorem decompose_eq_overflow_iff {k : Mode} (hword : 18 ≤ limit) :
    decompose limit k s = .error .overflow ↔ limit < expandedLength k s := by
  constructor
  · intro h
    by_contra hlimit
    rw [decompose_eq_ok (Nat.not_lt.mp hlimit)] at h
    simp at h
  · intro hover
    rw [decompose, expandAll_eq_error hword hover, error_bind]

theorem normalize_eq_ok {f : Form} (hlimit : expandedLength f.mode s ≤ limit) :
    normalize limit f s = .ok (f.normalize s) := by
  have hlength : (UnicodeText.decompose f.mode s).length ≤ limit := by
    rwa [← expandedLength_eq_length_decompose]
  rw [normalize, decompose_eq_ok hlimit, ok_bind, Form.normalize]
  split
  · exact compose_eq_ok hlength
  · rfl

theorem isNormalized_eq_ok {f : Form} (hlimit : expandedLength f.mode s ≤ limit) :
    isNormalized limit f s = .ok (f.isNormalized s) := by
  rw [isNormalized, normalize_eq_ok hlimit]
  rfl

theorem normalizeString_eq_ok {f : Form} {s : String} (hlimit : expandedLength f.mode (codesOf s) ≤ limit) :
    normalizeString limit f s = .ok (f.normalizeString s) := by
  rw [normalizeString, normalize_eq_ok hlimit]
  rfl

theorem normalizeUtf8_eq_ok {f : Form} {units : List UInt8}
    (hlimit : expandedLength f.mode (Encoding.utf8.decode units) ≤ limit) :
    normalizeUtf8 limit f units = .ok (f.normalizeUtf8 units) := by
  rw [normalizeUtf8, decode_eq_ok, ok_bind, normalize_eq_ok hlimit, ok_bind, encode_eq_ok]
  rfl

theorem deriveStripped_eq_ok (c : Code) (hlimit : 18 * 18 ≤ limit) :
    deriveStripped limit c = .ok (UnicodeText.deriveStripped c) := by
  have hmark (x : Code) : (do return !(← isCombiningMark x) : Run Bool) = .ok (!UnicodeText.isCombiningMark x) := by
    rw [isCombiningMark_eq_ok]
    rfl
  let bases := (Form.nfd.normalize [c]).filter fun x => !UnicodeText.isCombiningMark x
  have hsingle : expandedLength .canonical [c] ≤ 18 := expandedLength_le .canonical [c]
  have hlength : (Form.nfd.normalize [c]).length ≤ 18 := by
    rw [expandedLength_eq_length_decompose] at hsingle
    exact hsingle
  have hfilter : bases.length ≤ (Form.nfd.normalize [c]).length := List.length_filter_le _ _
  have hbases : expandedLength .canonical bases ≤ 18 * bases.length := expandedLength_le .canonical bases
  have hnfd : expandedLength Form.nfd.mode [c] ≤ limit := Nat.le_trans hsingle (by omega)
  have hnfc : expandedLength Form.nfc.mode bases ≤ limit := Nat.le_trans hbases (by omega)
  rw [deriveStripped, normalize_eq_ok hnfd, ok_bind, anyM_eq_ok isCombiningMark_eq_ok, ok_bind,
    UnicodeText.deriveStripped]
  split
  next =>
    rw [filterM_eq_ok hmark, ok_bind, normalize_eq_ok hnfc, ok_bind]
    generalize Form.nfc.normalize _ = stripped
    rcases stripped with _ | ⟨base, _ | ⟨second, rest⟩⟩
    · rfl
    · rfl
    · rfl
  next => rfl

end UnicodeText.Machine
