import UnicodeText.Case.Full
import UnicodeText.Category.Name
import UnicodeText.Proofs.Case.Scalars
import UnicodeText.Proofs.Machine.Table
import UnicodeText.Proofs.Mark.Entries

namespace UnicodeText.Machine

section Definitions

def category (c : Code) : Run CategorySet :=
  if InCodeSpace c then do
    let number ← lookup Data.generalCategory c.toNat
    let bits ← shiftLeft 32 1 number
    return ⟨UInt32.ofNat bits⟩
  else return .singleton .unassigned

def combiningClass (c : Code) : Run Nat :=
  if InCodeSpace c then lookup Data.combiningClass c.toNat else return 0

def caseMapping (c : Code) : Run CaseMapping :=
  if InCodeSpace c then do
    let cell ← lookup Data.caseMapping c.toNat
    return .ofCell cell
  else return .identity

def linkedCase (link c : Code) : Run Code := do
  let mapping ← caseMapping link
  return mapping.target?.getD c

def lowercase (c : Code) : Run Code := do
  match ← caseMapping c with
  | .lower low | .lowerThenUpper low => return low
  | .titleThenLower title => linkedCase title c
  | _ => return c

def uppercase (c : Code) : Run Code := do
  match ← caseMapping c with
  | .upperTitle up | .upper up | .upperThenTitle up => return up
  | .lowerThenUpper low => linkedCase low c
  | _ => return c

def titlecase (c : Code) : Run Code := do
  match ← caseMapping c with
  | .upperTitle title | .titleThenLower title => return title
  | .upperThenTitle up => linkedCase up c
  | _ => return c

def fullCase (sequences : List (Code × List Code)) (simple : Code → Run Code) (c : Code) : Run FullCase :=
  match sequences.lookup c with
  | some codes => return .special codes
  | none => do
    let code ← simple c
    return .single code

def isCombiningMark (c : Code) : Run Bool :=
  if InCodeSpace c then lookupBit Data.combiningMark c.toNat else return false

def stripMarks (c : Code) : Run Code :=
  if InCodeSpace c then do
    match ← lookup Data.baseCodeIndex c.toNat with
    | 0 => return c
    | i =>
      let base ← readField Data.baseCodes i
      return UInt32.ofNat base
  else return c

end Definitions

mutual

theorem allBelow_generalCategory_index :
    allBelow 4352 (fun page => (Data.generalCategory.index.get page).blt 157) = true := by decide +kernel

theorem allBelow_generalCategory_cells :
    allBelow (157 * 256) (fun i => (Data.generalCategory.cells.get i).blt 32) = true := by decide +kernel

theorem scanCells_baseCodeIndex : Data.baseCodeIndex.scanCells 5 (fun _ i => i.blt 997) = true := by decide +kernel

end

theorem covers_generalCategory : Covers Data.generalCategory :=
  ⟨by decide, fun page hpage => Nat.blt_eq.mp (allBelow_iff.mp allBelow_generalCategory_index page hpage)⟩

theorem covers_combiningClass : Covers Data.combiningClass := covers_of_isBlank combiningClass_isBlank (by decide)

theorem covers_caseMapping : Covers Data.caseMapping := covers_of_isBlank caseMapping_isBlank (by decide)

theorem covers_combiningMark : Covers Data.combiningMark := covers_of_isBlank combiningMark_isBlank (by decide)

theorem covers_baseCodeIndex : Covers Data.baseCodeIndex := covers_of_isBlank baseCodeIndex_isBlank (by decide)

theorem generalCategory_cell_lt (number j : Nat) : Data.generalCategory.cell number j < 32 := by
  have hsize : 0 < Data.generalCategory.count * 256 := by decide
  exact Nat.blt_eq.mp (Packed.check_of_allBelow (p := fun n => n.blt 32) hsize allBelow_generalCategory_cells _)

theorem ofNat_one_shiftLeft {n : Nat} (h : n < 32) : UInt32.ofNat (1 <<< n % 2 ^ 32) = 1 <<< UInt32.ofNat n := by
  have hall : ∀ m : Fin 32, UInt32.ofNat (1 <<< m.val % 2 ^ 32) = 1 <<< UInt32.ofNat m.val := by decide
  exact hall ⟨n, h⟩

theorem category_eq_ok (c : Code) : category c = .ok (UnicodeText.category c) := by
  rw [category, UnicodeText.category]
  split
  next hc =>
    have hnumber : Data.generalCategory.getD c.toNat GeneralCategory.unassigned.number < 32 := by
      rw [BlockTable.getD, BlockTable.get, covers_generalCategory.block_eq_ok hc]
      exact generalCategory_cell_lt _ _
    rw [covers_generalCategory.lookup_eq_ok hc GeneralCategory.unassigned.number, ok_bind, shiftLeft_eq_ok hnumber,
      ok_bind, ofNat_one_shiftLeft hnumber]
    rfl
  next => rfl

theorem combiningClass_eq_ok (c : Code) : combiningClass c = .ok (UnicodeText.combiningClass c) := by
  rw [combiningClass, UnicodeText.combiningClass]
  split
  next hc => exact covers_combiningClass.lookup_eq_ok hc 0
  next => rfl

section Case

theorem caseMapping_eq_ok (c : Code) : caseMapping c = .ok (UnicodeText.caseMapping c) := by
  rw [caseMapping, UnicodeText.caseMapping]
  split
  next hc =>
    rw [covers_caseMapping.lookup_eq_ok hc 0]
    rfl
  next => rfl

theorem linkedCase_eq_ok (link c : Code) : linkedCase link c = .ok (UnicodeText.linkedCase link c) := by
  rw [linkedCase, caseMapping_eq_ok]
  rfl

theorem lowercase_eq_ok (c : Code) : lowercase c = .ok (UnicodeText.lowercase c) := by
  rw [lowercase, caseMapping_eq_ok, ok_bind, UnicodeText.lowercase]
  cases UnicodeText.caseMapping c with
  | titleThenLower title => exact linkedCase_eq_ok title c
  | _ => rfl

theorem uppercase_eq_ok (c : Code) : uppercase c = .ok (UnicodeText.uppercase c) := by
  rw [uppercase, caseMapping_eq_ok, ok_bind, UnicodeText.uppercase]
  cases UnicodeText.caseMapping c with
  | lowerThenUpper low => exact linkedCase_eq_ok low c
  | _ => rfl

theorem titlecase_eq_ok (c : Code) : titlecase c = .ok (UnicodeText.titlecase c) := by
  rw [titlecase, caseMapping_eq_ok, ok_bind, UnicodeText.titlecase]
  cases UnicodeText.caseMapping c with
  | upperThenTitle up => exact linkedCase_eq_ok up c
  | _ => rfl

theorem fullCase_eq_ok (sequences : List (Code × List Code)) {simple : Code → Run Code} {map : Code → Code}
    (h : ∀ c, simple c = .ok (map c)) (c : Code) :
    fullCase sequences simple c = .ok (FullCase.resolve sequences map c) := by
  rw [fullCase, FullCase.resolve]
  cases sequences.lookup c with
  | some codes => rfl
  | none =>
    rw [h]
    rfl

end Case

section Marks

theorem isCombiningMark_eq_ok (c : Code) : isCombiningMark c = .ok (UnicodeText.isCombiningMark c) := by
  rw [isCombiningMark, UnicodeText.isCombiningMark]
  split
  next hc => rw [covers_combiningMark.lookupBit_eq_ok hc false, decide_eq_true hc, Bool.true_and]
  next hc =>
    rw [decide_eq_false hc, Bool.false_and]
    rfl

theorem stripMarks_eq_ok (c : Code) : stripMarks c = .ok (UnicodeText.stripMarks c) := by
  rw [stripMarks, UnicodeText.stripMarks]
  split
  next hc =>
    have hindex : Data.baseCodeIndex.getD c.toNat 0 < 997 := Nat.blt_eq.mp
      (BlockTable.check_of_scanCells baseCodeIndex_isBlank (fun _ => rfl) scanCells_baseCodeIndex c.toNat)
    rw [covers_baseCodeIndex.lookup_eq_ok hc 0, ok_bind]
    cases hi : Data.baseCodeIndex.getD c.toNat 0 with
    | zero => rfl
    | succ i =>
      rw [hi] at hindex
      change (readField Data.baseCodes (i + 1) >>= fun base => return UInt32.ofNat base) = _
      rw [readField_eq_ok hindex]
      rfl
  next => rfl

end Marks

end UnicodeText.Machine
