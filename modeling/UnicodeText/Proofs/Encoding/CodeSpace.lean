import Mathlib.Algebra.Order.Ring.Nat
import Mathlib.Data.List.Basic
import UnicodeText.Event
import UnicodeText.Proofs.Encoding.Boundary
import UnicodeText.Proofs.Encoding.RoundTrip

namespace UnicodeText

theorem isScalar_replacement : IsScalar replacement := by decide

theorem encodingEvents_eq_nil_iff {codes : List Code} :
    encodingEvents codes = [] ↔ ∀ c ∈ codes, InCodeSpace c := by
  simp [encodingEvents]

namespace Utf8

theorem isContinuation_iff {b : UInt8} : isContinuation b = true ↔ 0x80 ≤ b.toNat ∧ b.toNat < 0xC0 := by
  simp [isContinuation]

section Lead

variable {b : UInt8} {count high : Nat} {tail : List UInt8}

theorem lead?_cases (h : lead? b = some (count, high)) :
    (count = 0 ∧ b.toNat = high ∧ high < 0x80) ∨ (count = 1 ∧ b.toNat = 0xC0 + high ∧ high < 0x20) ∨
    (count = 2 ∧ b.toNat = 0xE0 + high ∧ high < 0x10) ∨ (count = 3 ∧ b.toNat = 0xF0 + high ∧ high < 0x08) := by
  unfold lead? at h
  split_ifs at h <;> simp only [Option.some.injEq, Prod.mk.injEq] at h
  · exact .inl (by omega)
  · exact .inr (.inl (by omega))
  · exact .inr (.inr (.inl (by omega)))
  · exact .inr (.inr (.inr (by omega)))

/-- The codes below this number have room in a sequence with `count` continuation bytes. -/
def sequenceLimit : (count : Nat) → Nat
  | 0 => 0x80
  | 1 => 0x800
  | 2 => 0x10000
  | _ => 0x200000

theorem sequenceLimit_bounds (count : Nat) : 0x80 ≤ sequenceLimit count ∧ sequenceLimit count ≤ 0x200000 := by
  unfold sequenceLimit
  split <;> decide

theorem lead?_le_sequenceLimit (h : lead? b = some (count, high)) :
    (high + 1) * 64 ^ count ≤ sequenceLimit count := by
  rcases lead?_cases h with ⟨rfl, -, hhigh⟩ | ⟨rfl, -, hhigh⟩ | ⟨rfl, -, hhigh⟩ | ⟨rfl, -, hhigh⟩ <;>
    simp only [sequenceLimit] <;> omega

theorem joinBits_lt (high : Nat) (tail : List UInt8) : joinBits high tail < (high + 1) * 64 ^ tail.length := by
  induction tail generalizing high with
  | nil => simp [joinBits]
  | cons b tail ih =>
    have hbits : b.toNat % 64 < 64 := Nat.mod_lt _ (by decide)
    calc joinBits high (b :: tail) = joinBits (64 * high + b.toNat % 64) tail := rfl
      _ < (64 * high + b.toNat % 64 + 1) * 64 ^ tail.length := ih _
      _ ≤ ((high + 1) * 64) * 64 ^ tail.length := Nat.mul_le_mul_right _ (by omega)
      _ = (high + 1) * 64 ^ (b :: tail).length := by rw [List.length_cons, Nat.pow_succ', Nat.mul_assoc]

theorem joinBits_lt_sequenceLimit (h : lead? b = some (tail.length, high)) :
    joinBits high tail < sequenceLimit tail.length :=
  Nat.lt_of_lt_of_le (joinBits_lt high tail) (lead?_le_sequenceLimit h)

theorem toNat_ofNat_joinBits (h : lead? b = some (tail.length, high)) :
    (UInt32.ofNat (joinBits high tail)).toNat = joinBits high tail := by
  have hlimit := (sequenceLimit_bounds tail.length).2
  have hbits := joinBits_lt_sequenceLimit h
  have hword : joinBits high tail < 2 ^ 32 := by omega
  exact UInt32.toNat_ofNat_of_lt' hword

end Lead

theorem toNat_code_read_lt (first : UInt8) (rest : List UInt8) :
    (read first rest).code.toNat < sequenceLimit (read first rest).extra := by
  obtain ⟨cause, extra, hread⟩ | ⟨high, tail, later, -, hlead, -, hread⟩ := read_cases first rest
  · rw [hread]
    exact Nat.lt_of_lt_of_le (by decide : replacement.toNat < 0x80) (sequenceLimit_bounds extra).1
  · rw [hread]
    change (UInt32.ofNat (joinBits high tail)).toNat < sequenceLimit tail.length
    rw [toNat_ofNat_joinBits hlead]
    exact joinBits_lt_sequenceLimit hlead

/-- A sequence of four bytes that holds a code beyond the code space. -/
def IsBeyond (a b c d : UInt8) : Prop :=
  (a.toNat = 0xF4 ∧ 0x90 ≤ b.toNat ∨ 0xF4 < a.toNat ∧ a.toNat < 0xF8) ∧
    ∀ x ∈ [b, c, d], isContinuation x = true

theorem codeSpace_le_joinBits_iff {high : Nat} {b c d : UInt8} (hhigh : high < 8) (hb : isContinuation b = true) :
    codeSpace ≤ joinBits high [b, c, d] ↔ high = 4 ∧ 0x90 ≤ b.toNat ∨ 4 < high := by
  rw [isContinuation_iff] at hb
  simp only [joinBits, codeSpace, List.foldl_cons, List.foldl_nil]
  omega

theorem lead?_of_codeSpace_le {b : UInt8} {high : Nat} {tail : List UInt8} (h : lead? b = some (tail.length, high))
    (hcode : codeSpace ≤ joinBits high tail) : tail.length = 3 ∧ b.toNat = 0xF0 + high ∧ high < 8 := by
  have hlimit := joinBits_lt_sequenceLimit h
  rcases lead?_cases h with ⟨hlength, -⟩ | ⟨hlength, -⟩ | ⟨hlength, -⟩ | hfour
  · simp only [hlength, sequenceLimit, codeSpace] at hlimit hcode
    omega
  · simp only [hlength, sequenceLimit, codeSpace] at hlimit hcode
    omega
  · simp only [hlength, sequenceLimit, codeSpace] at hlimit hcode
    omega
  · exact hfour

theorem isBeyond_of_read {first : UInt8} {rest : List UInt8} (h : ¬InCodeSpace (read first rest).code) :
    ∃ b c d later, rest = [b, c, d] ++ later ∧ IsBeyond first b c d := by
  obtain ⟨cause, extra, hread⟩ | ⟨high, tail, later, rfl, hlead, htail, hread⟩ := read_cases first rest
  · rw [hread] at h
    exact absurd isScalar_replacement.1 h
  · have hcode : codeSpace ≤ joinBits high tail := by
      rw [hread, InCodeSpace, Reading.valid, toNat_ofNat_joinBits hlead] at h
      omega
    obtain ⟨hlength, hfirst, hhigh⟩ := lead?_of_codeSpace_le hlead hcode
    obtain ⟨b, c, d, rfl⟩ := List.length_eq_three.mp hlength
    have hbeyond := (codeSpace_le_joinBits_iff hhigh (htail b List.mem_cons_self)).mp hcode
    exact ⟨b, c, d, later, rfl, by omega, htail⟩

theorem code_read_of_isBeyond {a b c d : UInt8} (h : IsBeyond a b c d) (rest : List UInt8) :
    ¬InCodeSpace (read a ([b, c, d] ++ rest)).code := by
  obtain ⟨hfirst, htail⟩ := h
  obtain ⟨high, ha, hhigh⟩ : ∃ high, a.toNat = 0xF0 + high ∧ high < 8 := ⟨a.toNat - 0xF0, by omega, by omega⟩
  have hlead : lead? a = some ([b, c, d].length, high) := by
    have hbyte := lead?_ofNat_four hhigh
    rwa [← ha, UInt8.ofNat_toNat] at hbyte
  have hcode := (codeSpace_le_joinBits_iff (c := c) (d := d) hhigh (htail b List.mem_cons_self)).mpr (by omega)
  rw [read_of_lead? hlead htail, InCodeSpace, Reading.valid, toNat_ofNat_joinBits hlead]
  omega

def HoldsBeyond (units : List UInt8) : Prop := ∃ a b c d, [a, b, c, d] <:+: units ∧ IsBeyond a b c d

theorem holdsBeyond_of_not_inCodeSpace {units : List UInt8} {x : Code} (hx : x ∈ Encoding.utf8.decode units)
    (h : ¬InCodeSpace x) : HoldsBeyond units := by
  induction units using Encoding.utf8.readings_induction with
  | nil => exact absurd hx List.not_mem_nil
  | cons first rest ih =>
    rw [Encoding.decode, Encoding.readings_cons, List.map_cons, List.mem_cons] at hx
    rcases hx with rfl | hlater
    · obtain ⟨b, c, d, later, rfl, hbeyond⟩ := isBeyond_of_read h
      exact ⟨first, b, c, d, (List.prefix_append [first, b, c, d] later).isInfix, hbeyond⟩
    · obtain ⟨a, b, c, d, hinfix, hbeyond⟩ := ih hlater
      have hsuffix := (List.drop_suffix (Encoding.utf8.read first rest).extra rest).trans (List.suffix_cons first rest)
      exact ⟨a, b, c, d, hinfix.trans hsuffix.isInfix, hbeyond⟩

theorem exists_not_inCodeSpace_of_holdsBeyond {units : List UInt8} (h : HoldsBeyond units) :
    ∃ x ∈ Encoding.utf8.decode units, ¬InCodeSpace x := by
  obtain ⟨a, b, c, d, ⟨before, later, rfl⟩, hbeyond⟩ := h
  -- the lead byte continues nothing, so that a reading begins with it
  have hcut : ∀ u ∈ (a :: ([b, c, d] ++ later)).head?, ¬Encoding.utf8.Continues u := by
    intro u hu hcontinues
    obtain rfl : a = u := Option.some.inj hu
    have hbits := isContinuation_iff.mp hcontinues
    have hfirst := hbeyond.1
    omega
  have hreadings := Encoding.readings_append_of_not_continues (e := .utf8) hcut before
  refine ⟨_, ?_, code_read_of_isBeyond hbeyond later⟩
  rw [List.append_assoc, List.cons_append, Encoding.decode_append_of_readings hreadings, Encoding.decode,
    Encoding.decode, Encoding.readings_cons]
  exact List.mem_append_right _ List.mem_cons_self

end Utf8

namespace Utf16

theorem toNat_joinPair {u v : UInt16} (hu : IsHigh u) (hv : IsLow v) :
    (joinPair u v).toNat = 0x10000 + (u.toNat - 0xD800) * 1024 + (v.toNat - 0xDC00) := by
  have hword : 0x10000 + (u.toNat - 0xD800) * 1024 + (v.toNat - 0xDC00) < 2 ^ 32 := by omega
  exact UInt32.toNat_ofNat_of_lt' hword

theorem isScalar_joinPair {u v : UInt16} (hu : IsHigh u) (hv : IsLow v) : IsScalar (joinPair u v) := by
  have hcode := toNat_joinPair hu hv
  simp only [IsScalar, InCodeSpace, codeSpace, IsSurrogate]
  omega

theorem isScalar_toUInt32 {u : UInt16} (hlow : ¬IsLow u) (hhigh : ¬IsHigh u) : IsScalar u.toUInt32 := by
  have hunit := u.toNat_lt
  simp only [IsScalar, InCodeSpace, codeSpace, IsSurrogate, UInt16.toNat_toUInt32]
  omega

theorem isScalar_code_read (u : UInt16) (rest : List UInt16) : IsScalar (read u rest).code := by
  rcases read_cases u rest with ⟨cause, hread⟩ | ⟨hlow, hhigh, hread⟩ | ⟨v, later, -, hhigh, hlow, hread⟩
  · rw [hread]
    exact isScalar_replacement
  · rw [hread]
    exact isScalar_toUInt32 hlow hhigh
  · rw [hread]
    exact isScalar_joinPair hhigh hlow

end Utf16

namespace Utf32

theorem isScalar_code_read (c : UInt32) (rest : List UInt32) : IsScalar (read c rest).code := by
  rw [read]
  split
  next h => exact h
  next => exact isScalar_replacement

end Utf32

namespace Encoding

theorem exists_read_of_mem_decode {e : Encoding} {units : List e.CodeUnit} {x : Code} (h : x ∈ e.decode units) :
    ∃ first rest, x = (e.read first rest).code := by
  induction units using e.readings_induction with
  | nil => exact absurd h List.not_mem_nil
  | cons first rest ih =>
    rw [decode, readings_cons, List.map_cons, List.mem_cons] at h
    rcases h with hx | hlater
    · exact ⟨first, rest, hx⟩
    · exact ih hlater

theorem isScalar_of_mem_decode {e : Encoding} (he : e ≠ utf8) {units : List e.CodeUnit} {x : Code}
    (h : x ∈ e.decode units) : IsScalar x := by
  obtain ⟨first, rest, rfl⟩ := exists_read_of_mem_decode h
  cases e with
  | utf8 => exact absurd rfl he
  | utf16 => exact Utf16.isScalar_code_read first rest
  | utf32 => exact Utf32.isScalar_code_read first rest

/-- The text holds a sequence for a code beyond the code space. Only UTF-8 has such sequences. -/
def LeavesCodeSpace : (e : Encoding) → List e.CodeUnit → Prop
  | utf8, units => Utf8.HoldsBeyond units
  | utf16, _ => False
  | utf32, _ => False

theorem decode_inCodeSpace_iff (e : Encoding) (units : List e.CodeUnit) :
    ((∀ c ∈ e.decode units, InCodeSpace c) ↔ ¬e.LeavesCodeSpace units) ∧
    (encodingEvents (e.decode units) = [] ↔ ¬e.LeavesCodeSpace units) := by
  have hspace : (∀ c ∈ e.decode units, InCodeSpace c) ↔ ¬e.LeavesCodeSpace units := by
    cases e with
    | utf8 =>
      constructor
      · intro h hbeyond
        obtain ⟨x, hx, hout⟩ := Utf8.exists_not_inCodeSpace_of_holdsBeyond hbeyond
        exact hout (h x hx)
      · intro h c hc
        exact Decidable.byContradiction fun hout => h (Utf8.holdsBeyond_of_not_inCodeSpace hc hout)
    | utf16 => exact iff_of_true (fun c hc => (isScalar_of_mem_decode (by decide) hc).1) id
    | utf32 => exact iff_of_true (fun c hc => (isScalar_of_mem_decode (by decide) hc).1) id
  exact ⟨hspace, encodingEvents_eq_nil_iff.trans hspace⟩

theorem decode_leaves_code_space :
    utf8.validate [0xF4, 0x90, 0x80, 0x80] = .ok () ∧ utf8.decode [0xF4, 0x90, 0x80, 0x80] = [0x110000] ∧
    ¬InCodeSpace 0x110000 ∧ encodingEvents (utf8.decode [0xF4, 0x90, 0x80, 0x80]) = [.outOfRange 0x110000] ∧
    utf8.encode (utf8.decode [0xF4, 0x90, 0x80, 0x80]) = [0x3F] := by
  decide

end Encoding

end UnicodeText
