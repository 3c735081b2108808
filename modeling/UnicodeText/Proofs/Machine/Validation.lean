import UnicodeText.Proofs.Encoding.Validation
import UnicodeText.Proofs.Machine.Basic

namespace UnicodeText.Machine

section Definitions

def validateUtf8From (limit : Nat) (units : List UInt8) : (count offset : Nat) → Run (Except EncodingError Unit)
  | 0, offset => if offset < units.length then .error .unfinished else return .ok ()
  | count + 1, offset =>
    if offset < units.length then do
      let first ← readAt units.toArray offset
      match Utf8.lead? first with
      | none => return .error (.invalidUtf8 offset)
      | some (missing, _) =>
        let start ← plus limit offset 1
        let stop ← plus limit offset (missing + 1)
        if (List.range' start (stop - start)).all fun i => units[i]?.any Utf8.isContinuation then
          validateUtf8From limit units count stop
        else return .error (.invalidUtf8 offset)
    else return .ok ()

def validateUtf16From (limit : Nat) (units : List UInt16) : (count offset : Nat) → Run (Except EncodingError Unit)
  | 0, offset => if offset < units.length then .error .unfinished else return .ok ()
  | count + 1, offset =>
    if offset < units.length then do
      let unit ← readAt units.toArray offset
      if Utf16.IsLow unit then return .error (.unpairedSurrogate offset)
      else if Utf16.IsHigh unit then do
        let second ← plus limit offset 1
        if units[second]?.any fun u => decide (Utf16.IsLow u) then do
          let next ← plus limit second 1
          validateUtf16From limit units count next
        else return .error (.unpairedSurrogate offset)
      else do
        let next ← plus limit offset 1
        validateUtf16From limit units count next
    else return .ok ()

def validateUtf32 (units : List UInt32) : Run (Except EncodingError Unit) :=
  match units.findIdx? fun c => !decide (IsScalar c) with
  | none => return .ok ()
  | some offset => do
    let code ← readAt units.toArray offset
    return .error (.invalidScalar offset code)

def validate (limit : Nat) : (e : Encoding) → List e.CodeUnit → Run (Except EncodingError Unit)
  | .utf8 => fun units => validateUtf8From limit units units.length 0
  | .utf16 => fun units => validateUtf16From limit units units.length 0
  | .utf32 => validateUtf32

end Definitions

section Utf8

theorem all_continuation_iff {units : List UInt8} (start count : Nat) :
    (List.range' start count).all (fun i => units[i]?.any Utf8.isContinuation) = true ↔
      (((units.drop start).take count).takeWhile Utf8.isContinuation).length = count := by
  induction count generalizing start with
  | zero => simp
  | succ count ih =>
    rw [List.range'_succ, List.all_cons, Bool.and_eq_true, ih, ← List.head?_drop, ← List.tail_drop]
    cases units.drop start with
    | nil => simp
    | cons b rest => by_cases hb : Utf8.isContinuation b = true <;> simp [hb]

theorem missing_le_of_lead? {b : UInt8} {missing high : Nat} (h : Utf8.lead? b = some (missing, high)) : missing ≤ 3 := by
  rw [Utf8.lead?] at h
  split at h <;> grind

variable {limit : Nat} {units : List UInt8}

theorem validateUtf8From_eq_ok (hlimit : units.length + 3 ≤ limit) {count offset : Nat}
    (hcount : units.length ≤ offset + count) (start : Nat) :
    validateUtf8From limit units count offset = .ok (Utf8.validateFrom start 0 offset (units.drop offset)) := by
  induction count generalizing offset start with
  | zero =>
    have hend : units.length ≤ offset := hcount
    rw [validateUtf8From, if_neg (by omega), List.drop_eq_nil_of_le hend]
    rfl
  | succ count ih =>
    rw [validateUtf8From]
    split
    next hoffset =>
      have hread : units.toArray[offset]? = some units[offset] := by simp [hoffset]
      rw [readAt_eq_ok hread, ok_bind, List.drop_eq_getElem_cons hoffset, Utf8.validateFrom]
      cases hlead : Utf8.lead? units[offset] with
      | none => rfl
      | some lead =>
        obtain ⟨missing, high⟩ := lead
        have hmissing := missing_le_of_lead? hlead
        have hlength : offset + (missing + 1) - (offset + 1) = missing := by omega
        dsimp only
        rw [plus_eq_ok (by omega), ok_bind, plus_eq_ok (by omega), ok_bind, hlength, Utf8.validateFrom_pending]
        simp only [all_continuation_iff]
        split
        · rw [ih (by omega) offset, List.drop_drop, Nat.add_assoc, Nat.add_comm 1]
        · rfl
    next hoffset =>
      rw [List.drop_eq_nil_of_le (Nat.le_of_not_lt hoffset)]
      rfl

end Utf8

section Utf16

variable {limit : Nat} {units : List UInt16}

theorem validateUtf16From_eq_ok (hlimit : units.length + 3 ≤ limit) {count offset : Nat}
    (hcount : units.length ≤ offset + count) :
    validateUtf16From limit units count offset = .ok (Utf16.validateFrom false offset (units.drop offset)) := by
  induction count generalizing offset with
  | zero =>
    have hend : units.length ≤ offset := hcount
    rw [validateUtf16From, if_neg (by omega), List.drop_eq_nil_of_le hend]
    rfl
  | succ count ih =>
    rw [validateUtf16From]
    split
    next hoffset =>
      have hread : units.toArray[offset]? = some units[offset] := by simp [hoffset]
      rw [readAt_eq_ok hread, ok_bind, List.drop_eq_getElem_cons hoffset, Utf16.validateFrom,
        if_neg Bool.false_ne_true]
      split
      next => rfl
      next =>
        split
        next hhigh =>
          have hsecond : units[offset + 1]? = (units.drop (offset + 1)).head? := List.head?_drop.symm
          rw [plus_eq_ok (by omega), ok_bind, decide_eq_true hhigh, hsecond]
          cases hrest : units.drop (offset + 1) with
          | nil => rfl
          | cons second rest =>
            have hlater : units.drop (offset + 1 + 1) = rest := by rw [← List.drop_drop, hrest, List.drop_one, List.tail_cons]
            have hlength := congrArg List.length hrest
            rw [List.length_drop, List.length_cons] at hlength
            rw [List.head?_cons, Option.any_some, Utf16.validateFrom, if_pos rfl]
            by_cases hpair : Utf16.IsLow second
            · rw [if_pos (decide_eq_true hpair), if_pos hpair, plus_eq_ok (by omega), ok_bind, ih (by omega), hlater]
            · rw [if_neg (by simpa using hpair), if_neg hpair]
              rfl
        next hhigh =>
          rw [plus_eq_ok (by omega), ok_bind, decide_eq_false hhigh]
          exact ih (by omega)
    next hoffset =>
      rw [List.drop_eq_nil_of_le (Nat.le_of_not_lt hoffset)]
      rfl

end Utf16

section Utf32

theorem validateFrom_eq_findIdx? (offset : Nat) (units : List UInt32) : Utf32.validateFrom offset units =
    (units.findIdx? fun c => !decide (IsScalar c)).elim (.ok ())
      fun i => .error (.invalidScalar (offset + i) (units.getD i 0)) := by
  induction units generalizing offset with
  | nil => rfl
  | cons c rest ih =>
    rw [Utf32.validateFrom, List.findIdx?_cons]
    split
    next hc =>
      rw [decide_eq_true hc, if_neg (by decide), ih]
      cases rest.findIdx? fun c => !decide (IsScalar c) with
      | none => rfl
      | some i => simp [Nat.add_assoc, Nat.add_comm 1]
    next hc => simp [hc]

theorem validateUtf32_eq_ok (units : List UInt32) : validateUtf32 units = .ok (Utf32.validate units) := by
  rw [validateUtf32, Utf32.validate, validateFrom_eq_findIdx?]
  cases hfind : units.findIdx? fun c => !decide (IsScalar c) with
  | none => rfl
  | some i =>
    obtain ⟨hi, -, -⟩ := List.findIdx?_eq_some_iff_getElem.mp hfind
    have hread : units.toArray[i]? = some units[i] := by simp [hi]
    dsimp only
    rw [readAt_eq_ok hread, Option.elim_some, Nat.zero_add, List.getD_eq_getElem?_getD, List.getElem?_eq_getElem hi]
    rfl

end Utf32

theorem validate_eq_ok {limit : Nat} {e : Encoding} {units : List e.CodeUnit} (hlimit : units.length + 3 ≤ limit) :
    validate limit e units = .ok (e.validate units) := by
  cases e with
  | utf8 => exact validateUtf8From_eq_ok hlimit (by omega) 0
  | utf16 => exact validateUtf16From_eq_ok hlimit (by omega)
  | utf32 => exact validateUtf32_eq_ok units

end UnicodeText.Machine
