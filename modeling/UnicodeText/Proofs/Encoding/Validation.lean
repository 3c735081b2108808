import UnicodeText.Event
import UnicodeText.Proofs.Encoding.Readings

namespace UnicodeText

/-- The place of the first reading that was replaced, where the readings begin at `offset`. -/
def firstReplaced? (offset : Nat) : List Reading → Option Nat
  | [] => none
  | r :: later => if r.replaced.isSome then some offset else firstReplaced? (offset + r.extra + 1) later

theorem firstReplaced?_valid (offset : Nat) (code : Code) (extra : Nat) (later : List Reading) :
    firstReplaced? offset (.valid code extra :: later) = firstReplaced? (offset + extra + 1) later := rfl

theorem firstReplaced?_invalid (offset : Nat) (cause : Replacement) (extra : Nat) (later : List Reading) :
    firstReplaced? offset (.invalid cause extra :: later) = some offset := rfl

theorem firstReplaced?_eq_none_iff (offset : Nat) {readings : List Reading} :
    firstReplaced? offset readings = none ↔ ∀ r ∈ readings, r.replaced = none := by
  induction readings generalizing offset with
  | nil => simp [firstReplaced?]
  | cons r later ih =>
    rw [firstReplaced?]
    split
    next hr => simp [Option.isSome_iff_ne_none.mp hr]
    next hr =>
      have hnone : r.replaced = none := by simpa using hr
      simp [ih, hnone]

theorem firstReplaced?_eq_some {offset place : Nat} {readings : List Reading}
    (h : firstReplaced? offset readings = some place) :
    ∃ earlier r later, readings = earlier ++ r :: later ∧ (∀ x ∈ earlier, x.replaced = none) ∧
      r.replaced ≠ none ∧ place = offset + unitCount earlier := by
  induction readings generalizing offset with
  | nil => simp [firstReplaced?] at h
  | cons r later ih =>
    rw [firstReplaced?] at h
    split at h
    next hr => exact ⟨[], r, later, rfl, by simp, Option.isSome_iff_ne_none.mp hr, (Option.some.inj h).symm⟩
    next hr =>
      obtain ⟨earlier, r', later', rfl, hearlier, hr', rfl⟩ := ih h
      refine ⟨r :: earlier, r', later', rfl, ?_, hr', ?_⟩
      · intro x hx
        rcases List.mem_cons.mp hx with rfl | hx
        · simpa using hr
        · exact hearlier x hx
      · rw [unitCount_cons]
        omega

theorem readingEvents_eq_nil_iff {readings : List Reading} :
    readingEvents readings = [] ↔ ∀ r ∈ readings, r.replaced = none := by
  simp [readingEvents]

def outcome (error : Nat → EncodingError) : Option Nat → Except EncodingError Unit
  | none => .ok ()
  | some place => .error (error place)

namespace Utf8

theorem validateFrom_pending (start pending offset : Nat) (units : List UInt8) :
    validateFrom start pending offset units =
      if ((units.take pending).takeWhile isContinuation).length = pending then
        validateFrom start 0 (offset + pending) (units.drop pending)
      else .error (.invalidUtf8 start) := by
  induction pending generalizing offset units with
  | zero => simp
  | succ missing ih =>
    cases units with
    | nil => simp [validateFrom]
    | cons b rest =>
      rw [validateFrom]
      split
      next hb =>
        rw [ih]
        simp [hb, Nat.add_right_comm, Nat.add_assoc]
      next hb => simp [hb]

theorem validateFrom_eq (start offset : Nat) (units : List UInt8) : validateFrom start 0 offset units =
    outcome .invalidUtf8 (firstReplaced? offset (Encoding.utf8.readings units)) := by
  induction units using Encoding.utf8.readings_induction generalizing start offset with
  | nil => rfl
  | cons b rest ih =>
    rw [Encoding.readings_cons, validateFrom]
    rw [Encoding.read_utf8, read] at ih ⊢
    cases hlead : lead? b with
    | none => rfl
    | some lead =>
      obtain ⟨count, high⟩ := lead
      simp only [hlead] at ih ⊢
      rw [validateFrom_pending]
      split
      next htail =>
        rw [if_pos htail] at ih
        rw [firstReplaced?_valid, Nat.add_right_comm]
        exact ih offset (offset + count + 1)
      next => rfl

end Utf8

namespace Utf16

theorem validateFrom_eq (offset : Nat) (units : List UInt16) : validateFrom false offset units =
    outcome .unpairedSurrogate (firstReplaced? offset (Encoding.utf16.readings units)) := by
  induction units using Encoding.utf16.readings_induction generalizing offset with
  | nil => rfl
  | cons u rest ih =>
    rw [Encoding.readings_cons, validateFrom, if_neg Bool.false_ne_true]
    rw [Encoding.read_utf16] at ih ⊢
    by_cases hlow : IsLow u
    · rw [read_of_isLow hlow, firstReplaced?_invalid, if_pos hlow]
      rfl
    rw [if_neg hlow]
    by_cases hhigh : IsHigh u
    · -- behind a high surrogate validation looks one unit further, as the reading does
      rw [decide_eq_true hhigh]
      cases rest with
      | nil =>
        rw [read_of_unpaired hhigh (by simp)]
        rfl
      | cons v rest =>
        rw [validateFrom, if_pos rfl]
        by_cases hpair : IsLow v
        · rw [read_of_pair hhigh hpair] at ih ⊢
          rw [if_pos hpair, firstReplaced?_valid]
          exact ih (offset + 1 + 1)
        · rw [read_of_unpaired hhigh (by simpa using hpair), if_neg hpair]
          rfl
    · rw [read_of_unit hlow hhigh] at ih ⊢
      rw [decide_eq_false hhigh, firstReplaced?_valid]
      exact ih (offset + 1)

end Utf16

namespace Encoding

def errorAt : (e : Encoding) → List e.CodeUnit → Nat → EncodingError
  | utf8, _, place => .invalidUtf8 place
  | utf16, _, place => .unpairedSurrogate place
  | utf32, units, place => .invalidScalar place (units.getD place 0)

end Encoding

namespace Utf32

theorem validateFrom_eq (before units : List UInt32) : validateFrom before.length units =
    outcome (Encoding.utf32.errorAt (before ++ units))
      (firstReplaced? before.length (Encoding.utf32.readings units)) := by
  induction units generalizing before with
  | nil => rfl
  | cons c rest ih =>
    rw [Encoding.readings_cons, validateFrom, Encoding.read_utf32, read]
    split
    next =>
      have hrest := ih (before ++ [c])
      rw [List.length_append, List.length_singleton, List.append_assoc] at hrest
      exact hrest
    next =>
      rw [firstReplaced?_invalid, outcome, Encoding.errorAt]
      simp

end Utf32

namespace Encoding

theorem validate_eq (e : Encoding) (units : List e.CodeUnit) :
    e.validate units = outcome (e.errorAt units) (firstReplaced? 0 (e.readings units)) := by
  cases e with
  | utf8 => exact Utf8.validateFrom_eq 0 0 units
  | utf16 => exact Utf16.validateFrom_eq 0 units
  | utf32 => exact Utf32.validateFrom_eq [] units

theorem validate_eq_ok_iff {e : Encoding} {units : List e.CodeUnit} :
    e.validate units = .ok () ↔ ∀ r ∈ e.readings units, r.replaced = none := by
  rw [validate_eq, ← firstReplaced?_eq_none_iff 0]
  cases firstReplaced? 0 (e.readings units) <;> simp [outcome]

theorem validate_eq_error {e : Encoding} {units : List e.CodeUnit} {error : EncodingError}
    (h : e.validate units = .error error) :
    ∃ place, firstReplaced? 0 (e.readings units) = some place ∧ error = e.errorAt units place := by
  rw [validate_eq] at h
  cases hplace : firstReplaced? 0 (e.readings units) with
  | none =>
    rw [hplace] at h
    simp [outcome] at h
  | some place =>
    rw [hplace, outcome, Except.error.injEq] at h
    exact ⟨place, rfl, h.symm⟩

/-- The error is one of the encoding, and for UTF-32 it holds the unit at its place. -/
def Reports : (e : Encoding) → List e.CodeUnit → EncodingError → Prop
  | utf8, _, error => error = .invalidUtf8 error.offset
  | utf16, _, error => error = .unpairedSurrogate error.offset
  | utf32, units, error => ∃ c, units[error.offset]? = some c ∧ error = .invalidScalar error.offset c

theorem offset_errorAt (e : Encoding) (units : List e.CodeUnit) (place : Nat) :
    (e.errorAt units place).offset = place := by
  cases e <;> rfl

theorem reports_errorAt (e : Encoding) {units : List e.CodeUnit} {place : Nat} (h : place < units.length) :
    e.Reports units (e.errorAt units place) := by
  cases e with
  | utf8 => rfl
  | utf16 => rfl
  | utf32 =>
    refine ⟨units.get ⟨place, h⟩, ?_, ?_⟩
    · exact List.getElem?_eq_getElem h
    · rw [errorAt, List.getD_eq_getElem?_getD, List.getElem?_eq_getElem h]
      rfl

theorem validate_agrees_with_decoding (e : Encoding) (units : List e.CodeUnit) :
    (e.validate units = .ok () ↔ readingEvents (e.readings units) = []) ∧
    ∀ error, e.validate units = .error error → e.Reports units error ∧
      ∃ earlier r later, e.readings units = earlier ++ r :: later ∧
        (∀ x ∈ earlier, x.replaced = none) ∧ r.replaced ≠ none ∧
        error.offset = unitCount earlier ∧
        (e.decoder units).advance earlier.length = (earlier, e.decoder (units.drop error.offset)) ∧
        (e.decoder (units.drop error.offset)).next.1 = some r := by
  refine ⟨validate_eq_ok_iff.trans readingEvents_eq_nil_iff.symm, ?_⟩
  intro error h
  obtain ⟨place, hplace, rfl⟩ := validate_eq_error h
  obtain ⟨earlier, r, later, hreadings, hearlier, hr, hsum⟩ := firstReplaced?_eq_some hplace
  rw [Nat.zero_add] at hsum
  subst hsum
  have hcount := e.unitCount_readings units
  rw [hreadings, unitCount_append, unitCount_cons] at hcount
  rw [offset_errorAt]
  refine ⟨e.reports_errorAt (by omega), earlier, r, later, hreadings, hearlier, hr, rfl,
    advance_decoder hreadings, next_decoder_of_readings (readings_drop hreadings)⟩

theorem validate_agrees_with_decoding_unpaired :
    utf16.Reports [0x41, 0xD83D, 0xDE00, 0xD800, 0x42] (.unpairedSurrogate 3) ∧
    ∃ earlier r later, utf16.readings [0x41, 0xD83D, 0xDE00, 0xD800, 0x42] = earlier ++ r :: later ∧
      (∀ x ∈ earlier, x.replaced = none) ∧ r.replaced ≠ none ∧ 3 = unitCount earlier := by
  have hvalidate : utf16.validate [0x41, 0xD83D, 0xDE00, 0xD800, 0x42] = .error (.unpairedSurrogate 3) := by rfl
  obtain ⟨hreports, earlier, r, later, hreadings, hearlier, hr, hsum, _⟩ :=
    (validate_agrees_with_decoding .utf16 [0x41, 0xD83D, 0xDE00, 0xD800, 0x42]).2 _ hvalidate
  exact ⟨hreports, earlier, r, later, hreadings, hearlier, hr, hsum⟩

end Encoding

end UnicodeText
