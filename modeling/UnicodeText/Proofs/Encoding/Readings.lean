import UnicodeText.Encoding.Decoder

namespace UnicodeText

def unitCount : List Reading → Nat
  | [] => 0
  | r :: later => r.extra + 1 + unitCount later

@[simp] theorem unitCount_nil : unitCount [] = 0 := rfl

@[simp] theorem unitCount_cons (r : Reading) (later : List Reading) :
    unitCount (r :: later) = r.extra + 1 + unitCount later := rfl

theorem unitCount_append (earlier later : List Reading) :
    unitCount (earlier ++ later) = unitCount earlier + unitCount later := by
  induction earlier with
  | nil => simp
  | cons r earlier ih => simp [ih, Nat.add_assoc]

theorem length_le_unitCount (readings : List Reading) : readings.length ≤ unitCount readings := by
  induction readings with
  | nil => exact Nat.le_refl 0
  | cons r later ih =>
    rw [List.length_cons, unitCount_cons]
    omega

namespace Encoding

@[elab_as_elim] theorem readings_induction (e : Encoding) {motive : List e.CodeUnit → Prop} (nil : motive [])
    (cons : ∀ first rest, motive (rest.drop (e.read first rest).extra) → motive (first :: rest))
    (units : List e.CodeUnit) : motive units := by
  induction hlength : units.length using Nat.strongRecOn generalizing units with
  | ind length ih =>
    cases units with
    | nil => exact nil
    | cons first rest =>
      apply cons
      apply ih (rest.drop (e.read first rest).extra).length _ _ rfl
      rw [← hlength, List.length_drop, List.length_cons]
      omega

theorem read_utf8 (first : UInt8) (rest : List UInt8) : utf8.read first rest = Utf8.read first rest := rfl

theorem read_utf16 (first : UInt16) (rest : List UInt16) : utf16.read first rest = Utf16.read first rest := rfl

theorem read_utf32 (first : UInt32) (rest : List UInt32) : utf32.read first rest = Utf32.read first rest := rfl

theorem next_decoder (e : Encoding) (first : e.CodeUnit) (rest : List e.CodeUnit) :
    (e.decoder (first :: rest)).next =
      (some (e.read first rest), e.decoder (rest.drop (e.read first rest).extra)) := rfl

theorem drop_unitCount_cons (e : Encoding) (first : e.CodeUnit) (rest : List e.CodeUnit) (later : List Reading) :
    (first :: rest).drop (unitCount (e.read first rest :: later)) =
      (rest.drop (e.read first rest).extra).drop (unitCount later) := by
  rw [unitCount_cons, List.drop_drop, Nat.add_right_comm, List.drop_succ_cons]

theorem readings_drop {e : Encoding} {units : List e.CodeUnit} {earlier later : List Reading}
    (h : e.readings units = earlier ++ later) : e.readings (units.drop (unitCount earlier)) = later := by
  induction earlier generalizing units with
  | nil => exact h
  | cons r earlier ih =>
    cases units with
    | nil => simp [readings_nil] at h
    | cons first rest =>
      rw [readings_cons, List.cons_append, List.cons.injEq] at h
      obtain ⟨rfl, htail⟩ := h
      rw [drop_unitCount_cons]
      exact ih htail

theorem advance_decoder {e : Encoding} {units : List e.CodeUnit} {earlier later : List Reading}
    (h : e.readings units = earlier ++ later) :
    (e.decoder units).advance earlier.length = (earlier, e.decoder (units.drop (unitCount earlier))) := by
  induction earlier generalizing units with
  | nil => rfl
  | cons r earlier ih =>
    cases units with
    | nil => simp [readings_nil] at h
    | cons first rest =>
      rw [readings_cons, List.cons_append, List.cons.injEq] at h
      obtain ⟨rfl, htail⟩ := h
      rw [List.length_cons, Decoder.advance, next_decoder, ih htail, drop_unitCount_cons]
      rfl

theorem next_decoder_of_readings {e : Encoding} {units : List e.CodeUnit} {r : Reading} {later : List Reading}
    (h : e.readings units = r :: later) : (e.decoder units).next.1 = some r := by
  cases units with
  | nil => simp [readings_nil] at h
  | cons first rest =>
    rw [readings_cons, List.cons.injEq] at h
    rw [next_decoder, h.1]

theorem unitCount_readings (e : Encoding) (units : List e.CodeUnit) :
    unitCount (e.readings units) = units.length := by
  induction units using e.readings_induction with
  | nil => rfl
  | cons first rest ih =>
    have hle := e.extra_read_le first rest
    rw [readings_cons, unitCount_cons, ih, List.length_drop, List.length_cons]
    omega

theorem length_readings_le (e : Encoding) (units : List e.CodeUnit) : (e.readings units).length ≤ units.length :=
  Nat.le_trans (length_le_unitCount _) (Nat.le_of_eq (e.unitCount_readings units))

end Encoding

namespace Utf16

variable {u v : UInt16} {rest : List UInt16}

theorem not_isLow_of_isHigh (h : IsHigh u) : ¬IsLow u := fun hlow => by omega

theorem read_of_isLow (h : IsLow u) : read u rest = .invalid (.loneLowSurrogate u) 0 := if_pos h

theorem read_of_unit (hlow : ¬IsLow u) (hhigh : ¬IsHigh u) : read u rest = .valid u.toUInt32 0 := by
  unfold read
  rw [if_neg hlow, if_neg hhigh]

theorem read_of_pair (hu : IsHigh u) (hv : IsLow v) : read u (v :: rest) = .valid (joinPair u v) 1 := by
  unfold read
  rw [if_neg (not_isLow_of_isHigh hu), if_pos hu]
  exact if_pos hv

theorem read_of_unpaired (hu : IsHigh u) (h : ∀ v ∈ rest.head?, ¬IsLow v) :
    read u rest = .invalid (.loneHighSurrogate u) 0 := by
  unfold read
  rw [if_neg (not_isLow_of_isHigh hu), if_pos hu]
  cases rest with
  | nil => rfl
  | cons v rest => exact if_neg (h v rfl)

theorem read_cases (u : UInt16) (rest : List UInt16) :
    (∃ cause, read u rest = .invalid cause 0) ∨
    (¬IsLow u ∧ ¬IsHigh u ∧ read u rest = .valid u.toUInt32 0) ∨
    ∃ v later, rest = v :: later ∧ IsHigh u ∧ IsLow v ∧ read u rest = .valid (joinPair u v) 1 := by
  by_cases hlow : IsLow u
  · exact .inl ⟨_, read_of_isLow hlow⟩
  by_cases hhigh : IsHigh u
  · cases rest with
    | nil => exact .inl ⟨_, read_of_unpaired hhigh (by simp)⟩
    | cons v later =>
      by_cases hpair : IsLow v
      · exact .inr (.inr ⟨v, later, rfl, hhigh, hpair, read_of_pair hhigh hpair⟩)
      · exact .inl ⟨_, read_of_unpaired hhigh (by simpa using hpair)⟩
  · exact .inr (.inl ⟨hlow, hhigh, read_of_unit hlow hhigh⟩)

end Utf16

namespace Utf8

theorem read_cases (first : UInt8) (rest : List UInt8) :
    (∃ cause extra, read first rest = .invalid cause extra) ∨
    ∃ high tail later, rest = tail ++ later ∧ lead? first = some (tail.length, high) ∧
      (∀ b ∈ tail, isContinuation b = true) ∧
      read first rest = .valid (UInt32.ofNat (joinBits high tail)) tail.length := by
  rw [read]
  cases lead? first with
  | none => exact .inl ⟨_, _, rfl⟩
  | some lead =>
    obtain ⟨count, high⟩ := lead
    dsimp only
    split
    next hcount =>
      obtain ⟨later, hlater⟩ : (rest.take count).takeWhile isContinuation <+: rest :=
        (List.takeWhile_prefix _).trans (List.take_prefix _ _)
      refine .inr ⟨high, _, later, hlater.symm, ?_, ?_, ?_⟩
      · rw [hcount]
      · exact List.all_eq_true.mp List.all_takeWhile
      · rw [hcount]
    next => exact .inl ⟨_, _, rfl⟩

end Utf8

end UnicodeText
