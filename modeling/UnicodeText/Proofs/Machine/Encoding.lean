import UnicodeText.Proofs.Encoding.Decoder
import UnicodeText.Proofs.Machine.Basic

namespace UnicodeText.Machine

section Definitions

/-- Reads the bytes that follow a lead byte from place `consumed` on, of which `left` are missing. -/
def readTail (units : List UInt8) (count : Nat) : (left consumed code : Nat) → Run (Reading × List UInt8)
  | 0, _, code => do
    let later ← sliceFrom units (count + 1)
    return (.valid (UInt32.ofNat code) count, later)
  | left + 1, consumed, code =>
    match units[consumed]?.filter Utf8.isContinuation with
    | some b => readTail units count left (consumed + 1) (64 * code + b.toNat % 64)
    | none => do
      let later ← sliceFrom units consumed
      return (.invalid (.truncated (count + 1)) (consumed - 1), later)

def readUtf8 (first : UInt8) (rest : List UInt8) : Run (Reading × List UInt8) :=
  match Utf8.lead? first with
  | none => return (.invalid (.leadByte first) 0, rest)
  | some (count, high) => readTail (first :: rest) count count 1 high

def joinPair (high low : UInt16) : Run Code := do
  let upper ← minus high.toNat 0xD800
  let shifted ← shiftLeft 32 upper 10
  let sum ← plus maxCode 0x10000 shifted
  let lower ← minus low.toNat 0xDC00
  let code ← plus maxCode sum lower
  return UInt32.ofNat code

def readUtf16 (first : UInt16) (rest : List UInt16) : Run (Reading × List UInt16) :=
  if Utf16.IsLow first then return (.invalid (.loneLowSurrogate first) 0, rest)
  else if Utf16.IsHigh first then
    match rest.head?.filter fun u => decide (Utf16.IsLow u) with
    | some low => do
      let later ← sliceFrom rest 1
      let code ← joinPair first low
      return (.valid code 1, later)
    | none => return (.invalid (.loneHighSurrogate first) 0, rest)
  else return (.valid first.toUInt32 0, rest)

def read : (e : Encoding) → e.CodeUnit → List e.CodeUnit → Run (Reading × List e.CodeUnit)
  | .utf8 => readUtf8
  | .utf16 => readUtf16
  | .utf32 => fun first rest => return (Utf32.read first rest, rest)

def decodeNext (e : Encoding) : List e.CodeUnit → Run (Option Reading × List e.CodeUnit)
  | [] => return (none, [])
  | first :: rest => do
    let (reading, later) ← read e first rest
    return (some reading, later)

def encodeUtf16 (c : Code) : Run (List UInt16) :=
  if c.toNat < 0x10000 then return [UInt16.ofNat c.toNat]
  else if c.toNat < codeSpace then do
    let offset ← minus c.toNat 0x10000
    let high ← plus 0xFFFF 0xD800 (offset / 1024)
    let low ← plus 0xFFFF 0xDC00 (offset % 1024)
    return [UInt16.ofNat high, UInt16.ofNat low]
  else return [replacement.toUInt16]

def encodeCode : (e : Encoding) → Code → Run (List e.CodeUnit)
  | .utf8 => fun c => return Utf8.encodeCode c
  | .utf16 => encodeUtf16
  | .utf32 => fun c => return Utf32.encodeCode c

def encode (e : Encoding) (codes : List Code) : Run (List e.CodeUnit) := do
  let parts ← codes.mapM (encodeCode e)
  return parts.flatten

variable {e : Encoding}

def next (d : Decoder e) : Run (Option Reading × Decoder e) :=
  if d.terminated && d.remaining.head?.any e.isZero then return (none, { d with remaining := [] })
  else do
    let (reading, later) ← decodeNext e d.remaining
    return (reading, { d with remaining := later })

def collectWithin : Nat → Decoder e → Run (List Reading × Decoder e)
  | 0, _ => .error .unfinished
  | calls + 1, d => do
    match ← next d with
    | (none, later) => return ([], later)
    | (some reading, later) =>
      let (readings, last) ← collectWithin calls later
      return (reading :: readings, last)

def collect (d : Decoder e) : Run (List Reading × Decoder e) := collectWithin (d.remaining.length + 1) d

def sizeHint (limit : Nat) (d : Decoder e) : Run (Nat × Nat) :=
  let length := d.remaining.length
  if d.terminated then return (0, length)
  else if length % e.maxUnits = 0 then return (length / e.maxUnits, length)
  else do
    let least ← plus limit (length / e.maxUnits) 1
    return (least, length)

def decode (e : Encoding) (units : List e.CodeUnit) : Run (List Code) := do
  let (readings, _) ← collect (e.decoder units)
  return readings.map Reading.code

def mapWithin (f : Code → Code) : Nat → Decoder e → Run (List e.CodeUnit)
  | 0, _ => .error .unfinished
  | calls + 1, d => do
    match ← next d with
    | (none, _) => return []
    | (some reading, later) =>
      let units ← encodeCode e (f reading.code)
      let rest ← mapWithin f calls later
      return units ++ rest

def map (e : Encoding) (f : Code → Code) (units : List e.CodeUnit) : Run (List e.CodeUnit) :=
  mapWithin f (units.length + 1) (e.decoder units)

end Definitions

section Reading

theorem exists_tail (count : Nat) (rest : List UInt8) : ∃ tail later, rest = tail ++ later ∧
    (rest.take count).takeWhile Utf8.isContinuation = tail ∧ (∀ b ∈ tail, Utf8.isContinuation b = true) ∧
    tail.length ≤ count ∧ (tail.length ≠ count → later.head?.filter Utf8.isContinuation = none) := by
  induction count generalizing rest with
  | zero => exact ⟨[], rest, rfl, by simp, by simp, Nat.le_refl 0, fun h => absurd rfl h⟩
  | succ count ih =>
    cases rest with
    | nil => exact ⟨[], [], rfl, rfl, by simp, Nat.zero_le _, fun _ => rfl⟩
    | cons b rest =>
      by_cases hb : Utf8.isContinuation b = true
      · obtain ⟨tail, later, rfl, htail, hall, hle, hend⟩ := ih rest
        refine ⟨b :: tail, later, rfl, ?_, by simpa [hb] using hall, Nat.succ_le_succ hle, ?_⟩
        · rw [List.take_succ_cons, List.takeWhile_cons_of_pos hb, htail]
        · exact fun h => hend (by simpa using h)
      · exact ⟨[], b :: rest, rfl, by simp [hb], by simp, Nat.zero_le _, fun _ => by simp [hb]⟩

theorem readTail_append (before tail later : List UInt8) (htail : ∀ b ∈ tail, Utf8.isContinuation b = true)
    (count left code : Nat) :
    readTail (before ++ (tail ++ later)) count (tail.length + left) before.length code =
      readTail (before ++ (tail ++ later)) count left (before.length + tail.length) (Utf8.joinBits code tail) := by
  induction tail generalizing before code with
  | nil => simp [Utf8.joinBits]
  | cons b tail ih =>
    have hb : (before ++ (b :: tail ++ later))[before.length]?.filter Utf8.isContinuation = some b := by
      simp [htail b List.mem_cons_self]
    have hrest := ih (before ++ [b]) (fun x hx => htail x (List.mem_cons_of_mem b hx)) (64 * code + b.toNat % 64)
    have hbits : Utf8.joinBits (64 * code + b.toNat % 64) tail = Utf8.joinBits code (b :: tail) := rfl
    rw [List.length_cons, Nat.add_right_comm, readTail, hb]
    simpa [Nat.add_assoc, Nat.add_comm 1, hbits] using hrest

theorem readUtf8_eq_ok (first : UInt8) (rest : List UInt8) :
    readUtf8 first rest = .ok (Utf8.read first rest, rest.drop (Utf8.read first rest).extra) := by
  rw [readUtf8, Utf8.read]
  cases Utf8.lead? first with
  | none => rfl
  | some lead =>
    obtain ⟨count, high⟩ := lead
    obtain ⟨tail, later, rfl, htail, hall, hle, hend⟩ := exists_tail count rest
    -- the loop goes over `tail` in either case, and what it finds then is the end or the byte that breaks the sequence
    have hread := readTail_append [first] tail later hall count (count - tail.length) high
    rw [Nat.add_sub_cancel' hle] at hread
    dsimp only
    rw [htail]
    refine hread.trans ?_
    split
    next hcount =>
      have hlength : count + 1 ≤ ([first] ++ (tail ++ later)).length := by simp [← hcount]
      rw [hcount, Nat.sub_self, readTail, sliceFrom_eq_ok hlength]
      rfl
    next hcount =>
      obtain ⟨left, hleft⟩ : ∃ left, count - tail.length = left + 1 := ⟨count - tail.length - 1, by omega⟩
      have hnone : ([first] ++ (tail ++ later))[[first].length + tail.length]?.filter Utf8.isContinuation = none := by
        rw [← hend hcount, List.getElem?_append_right (Nat.le_add_right _ _), Nat.add_sub_cancel_left,
          List.getElem?_append_right (Nat.le_refl _), Nat.sub_self, List.head?_eq_getElem?]
      have hlength : [first].length + tail.length ≤ ([first] ++ (tail ++ later)).length := by
        rw [List.length_append, List.length_append]
        omega
      rw [hleft, readTail, hnone]
      dsimp only
      rw [sliceFrom_eq_ok hlength]
      simp [Reading.invalid, Nat.add_comm 1]

theorem joinPair_eq_ok {high low : UInt16} (hhigh : Utf16.IsHigh high) (hlow : Utf16.IsLow low) :
    joinPair high low = .ok (Utf16.joinPair high low) := by
  have hshift : (high.toNat - 0xD800) <<< 10 % 2 ^ 32 = (high.toNat - 0xD800) * 1024 := by
    rw [Nat.shiftLeft_eq]
    exact Nat.mod_eq_of_lt (by omega)
  have hsum : 0x10000 + (high.toNat - 0xD800) * 1024 ≤ maxCode := by
    rw [maxCode]
    omega
  have hcode : 0x10000 + (high.toNat - 0xD800) * 1024 + (low.toNat - 0xDC00) ≤ maxCode := by
    rw [maxCode]
    omega
  rw [joinPair, minus_eq_ok hhigh.1, ok_bind, shiftLeft_eq_ok (by decide), ok_bind, hshift, plus_eq_ok hsum, ok_bind,
    minus_eq_ok hlow.1, ok_bind, plus_eq_ok hcode]
  rfl

theorem readUtf16_eq_ok (first : UInt16) (rest : List UInt16) :
    readUtf16 first rest = .ok (Utf16.read first rest, rest.drop (Utf16.read first rest).extra) := by
  rw [readUtf16]
  split
  next hlow =>
    rw [Utf16.read_of_isLow hlow]
    rfl
  next hlow =>
    split
    next hhigh =>
      cases rest with
      | nil =>
        rw [Utf16.read_of_unpaired hhigh (by simp)]
        rfl
      | cons second rest =>
        by_cases hpair : Utf16.IsLow second
        · rw [Utf16.read_of_pair hhigh hpair, List.head?_cons, Option.filter_some, if_pos (decide_eq_true hpair)]
          dsimp only
          rw [sliceFrom_eq_ok (by simp), ok_bind, joinPair_eq_ok hhigh hpair]
          rfl
        · rw [Utf16.read_of_unpaired hhigh (by simpa using hpair), List.head?_cons, Option.filter_some,
            if_neg (by simpa using hpair)]
          rfl
    next hhigh =>
      rw [Utf16.read_of_unit hlow hhigh]
      rfl

theorem read_eq_ok (e : Encoding) (first : e.CodeUnit) (rest : List e.CodeUnit) :
    read e first rest = .ok (e.read first rest, rest.drop (e.read first rest).extra) := by
  cases e with
  | utf8 => exact readUtf8_eq_ok first rest
  | utf16 => exact readUtf16_eq_ok first rest
  | utf32 =>
    have hextra := Utf32.extra_read first rest
    rw [Encoding.read_utf32, hextra]
    rfl

theorem decodeNext_eq_ok (e : Encoding) (units : List e.CodeUnit) :
    decodeNext e units = .ok ((e.decoder units).next.1, (e.decoder units).next.2.remaining) := by
  cases units with
  | nil => rfl
  | cons first rest =>
    rw [decodeNext, read_eq_ok]
    rfl

end Reading

section Writing

theorem encodeUtf16_eq_ok (c : Code) : encodeUtf16 c = .ok (Utf16.encodeCode c) := by
  rw [encodeUtf16, Utf16.encodeCode]
  split
  next => rfl
  next hlow =>
    split
    next hc =>
      rw [codeSpace] at hc
      rw [minus_eq_ok (by omega), ok_bind, plus_eq_ok (by omega), ok_bind, plus_eq_ok (by omega)]
      rfl
    next => rfl

theorem encodeCode_eq_ok (e : Encoding) (c : Code) : encodeCode e c = .ok (e.encodeCode c) := by
  cases e with
  | utf8 => rfl
  | utf16 => exact encodeUtf16_eq_ok c
  | utf32 => rfl

theorem encode_eq_ok (e : Encoding) (codes : List Code) : encode e codes = .ok (e.encode codes) := by
  rw [encode, mapM_eq_ok fun c _ => encodeCode_eq_ok e c]
  rfl

end Writing

section Decoders

variable {e : Encoding}

theorem next_eq_ok (d : Decoder e) : next d = .ok d.next := by
  obtain ⟨remaining, terminated⟩ := d
  rw [next, decodeNext_eq_ok]
  cases remaining with
  | nil => cases terminated <;> rfl
  | cons first rest =>
    rw [Encoding.next_decoder, Decoder.next, List.head?_cons, Option.any_some]
    dsimp only
    split
    · rfl
    · rfl

theorem advance_of_next_eq_none {d later : Decoder e} (h : d.next = (none, later)) {calls : Nat}
    (hcalls : d.remaining.length ≤ calls) : d.advance calls = ([], later) := by
  cases calls with
  | zero =>
    rw [Decoder.next_of_remaining_eq_nil (List.eq_nil_of_length_eq_zero (Nat.le_zero.mp hcalls))] at h
    obtain ⟨-, rfl⟩ := Prod.mk.inj h
    rfl
  | succ calls =>
    have hnone : d.next.1 = none := by rw [h]
    have hend : later.remaining = [] := by
      have hrest := (Decoder.next_of_next_eq_none hnone 0).1
      rwa [h] at hrest
    rw [Decoder.advance, h, Decoder.advance_of_remaining_eq_nil hend]
    rfl

theorem collectWithin_eq_ok {d : Decoder e} {calls : Nat} (hcalls : d.remaining.length ≤ calls) :
    collectWithin (calls + 1) d = .ok (d.advance calls) := by
  induction calls generalizing d with
  | zero =>
    have hend := List.eq_nil_of_length_eq_zero (Nat.le_zero.mp hcalls)
    rw [collectWithin, next_eq_ok, ok_bind, Decoder.next_of_remaining_eq_nil hend]
    rfl
  | succ calls ih =>
    rw [collectWithin, next_eq_ok, ok_bind]
    obtain ⟨⟨_ | r, later⟩, hnext⟩ : ∃ p, d.next = p := ⟨_, rfl⟩
    · rw [hnext, advance_of_next_eq_none hnext hcalls]
      rfl
    · have hlater := Decoder.length_remaining_next hnext
      rw [hnext]
      dsimp only
      rw [ih (by omega), Decoder.advance, hnext]
      rfl

theorem collect_eq_ok (d : Decoder e) : collect d = .ok d.collect := collectWithin_eq_ok (Nat.le_refl _)

theorem mapWithin_eq_ok (f : Code → Code) {d : Decoder e} {calls : Nat} (hcalls : d.remaining.length ≤ calls) :
    mapWithin f (calls + 1) d = .ok (d.mapWithin f calls) := by
  induction calls generalizing d with
  | zero =>
    have hend := List.eq_nil_of_length_eq_zero (Nat.le_zero.mp hcalls)
    rw [mapWithin, next_eq_ok, ok_bind, Decoder.next_of_remaining_eq_nil hend]
    rfl
  | succ calls ih =>
    rw [mapWithin, next_eq_ok, ok_bind, Decoder.mapWithin]
    obtain ⟨⟨_ | r, later⟩, hnext⟩ : ∃ p, d.next = p := ⟨_, rfl⟩
    · rw [hnext]
      rfl
    · have hlater := Decoder.length_remaining_next hnext
      rw [hnext]
      dsimp only
      rw [encodeCode_eq_ok, ok_bind, ih (by omega)]
      rfl

theorem map_eq_ok (e : Encoding) (f : Code → Code) (units : List e.CodeUnit) : map e f units = .ok (e.map f units) :=
  mapWithin_eq_ok f (Nat.le_refl _)

theorem decode_eq_ok (e : Encoding) (units : List e.CodeUnit) : decode e units = .ok (e.decode units) := by
  rw [decode, collect_eq_ok, ok_bind, Encoding.decode, ← Decoder.text_decoder units, ← Decoder.collect_eq]
  rfl

theorem sizeHint_eq_ok {limit : Nat} {d : Decoder e} (hlimit : d.remaining.length ≤ limit) :
    sizeHint limit d = .ok d.sizeHint := by
  rw [sizeHint, Decoder.sizeHint]
  generalize d.remaining.length = length at *
  have hunits : e.maxUnits = 1 ∨ e.maxUnits = 2 ∨ e.maxUnits = 4 := by cases e <;> decide
  split
  next => rfl
  next =>
    split
    next hmod =>
      have hquotient : (length + e.maxUnits - 1) / e.maxUnits = length / e.maxUnits := by
        rcases hunits with h | h | h <;> rw [h] at hmod ⊢ <;> omega
      rw [hquotient]
      rfl
    next hmod =>
      have hquotient : (length + e.maxUnits - 1) / e.maxUnits = length / e.maxUnits + 1 := by
        rcases hunits with h | h | h <;> rw [h] at hmod ⊢ <;> omega
      have hle : length / e.maxUnits + 1 ≤ length := by
        rcases hunits with h | h | h <;> rw [h] at hmod ⊢ <;> omega
      rw [hquotient, plus_eq_ok (Nat.le_trans hle hlimit)]
      rfl

end Decoders

end UnicodeText.Machine
