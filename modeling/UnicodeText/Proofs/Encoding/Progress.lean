import Mathlib.Algebra.Order.Floor.Div
import UnicodeText.Proofs.Encoding.Decoder

namespace UnicodeText

namespace Encoding

theorem maxUnits_pos (e : Encoding) : 0 < e.maxUnits := by
  cases e <;> decide

theorem readings_eq_nil_iff {e : Encoding} {units : List e.CodeUnit} : e.readings units = [] ↔ units = [] := by
  cases units with
  | nil => exact iff_of_true rfl rfl
  | cons first rest => simp [readings_cons]

theorem length_le_maxUnits_mul (e : Encoding) (units : List e.CodeUnit) :
    units.length ≤ e.maxUnits * (e.readings units).length := by
  induction units using e.readings_induction with
  | nil => exact Nat.zero_le _
  | cons first rest ih =>
    have hextra := e.extra_read_lt first rest
    rw [List.length_drop] at ih
    rw [readings_cons, List.length_cons, List.length_cons, Nat.mul_succ]
    omega

end Encoding

namespace Decoder

variable {e : Encoding} {d : Decoder e}

theorem next_consumes {r : Reading} {later : Decoder e} (h : d.next = (some r, later)) :
    ∃ taken, d.remaining = taken ++ later.remaining ∧ 1 ≤ taken.length ∧ taken.length ≤ e.maxUnits := by
  obtain ⟨first, rest, hremaining, rfl, hlater⟩ := next_eq_some h
  have hle := e.extra_read_le first rest
  have hlt := e.extra_read_lt first rest
  refine ⟨first :: rest.take (e.read first rest).extra, ?_, ?_, ?_⟩
  · rw [hremaining, hlater, List.cons_append, List.take_append_drop]
  · exact Nat.le_add_left _ _
  · rw [List.length_cons, List.length_take]
    omega

theorem length_advance (d : Decoder e) (calls : Nat) :
    (d.advance calls).1.length = min calls (e.readings d.text).length := by
  induction calls generalizing d with
  | zero =>
    rw [Nat.zero_min]
    rfl
  | succ calls ih =>
    have hnext := congrArg List.length d.next_readings
    rw [List.length_append] at hnext
    rw [advance, List.length_append, ih]
    cases hcode : d.next.1 with
    | none =>
      rw [next_eq_none_iff.mp hcode, Encoding.readings_nil, hcode] at hnext
      rw [next_eq_none_iff.mp hcode, Encoding.readings_nil]
      simp only [Option.toList_none, List.length_nil] at hnext ⊢
      omega
    | some r =>
      rw [hcode] at hnext
      simp only [Option.toList_some, List.length_singleton] at hnext ⊢
      omega

theorem next_advance_eq_none_iff (d : Decoder e) (calls : Nat) :
    (d.advance calls).2.next.1 = none ↔ (e.readings d.text).length ≤ calls := by
  have hlength := congrArg List.length (d.advance_readings calls)
  rw [List.length_append, length_advance] at hlength
  rw [next_eq_none_iff, ← Encoding.readings_eq_nil_iff, ← List.length_eq_zero_iff]
  omega

theorem sizeHint_of_not_terminated (h : d.terminated = false) :
    d.sizeHint = (d.remaining.length ⌈/⌉ e.maxUnits, d.remaining.length) := by
  rw [sizeHint, h, Nat.ceilDiv_eq_add_pred_div]
  rfl

theorem sizeHint_of_terminated (h : d.terminated = true) : d.sizeHint = (0, d.remaining.length) := by
  rw [sizeHint, h]
  rfl

theorem sizeHint_le (d : Decoder e) : d.sizeHint.1 ≤ (e.readings d.text).length := by
  cases h : d.terminated with
  | false =>
    have htext : d.text = d.remaining := by simp [text, h]
    rw [sizeHint_of_not_terminated h, htext, ceilDiv_le_iff_le_mul e.maxUnits_pos]
    exact e.length_le_maxUnits_mul d.remaining
  | true =>
    rw [sizeHint_of_terminated h]
    exact Nat.zero_le _

theorem le_sizeHint (d : Decoder e) : (e.readings d.text).length ≤ d.sizeHint.2 := by
  have hupper : d.sizeHint.2 = d.remaining.length := by
    cases h : d.terminated with
    | false => rw [sizeHint_of_not_terminated h]
    | true => rw [sizeHint_of_terminated h]
  rw [hupper]
  exact (e.length_readings_le d.text).trans d.length_text_le

theorem progress_within_size_hint (d : Decoder e) :
    (∀ r later, d.next = (some r, later) →
      ∃ taken, d.remaining = taken ++ later.remaining ∧ 1 ≤ taken.length ∧ taken.length ≤ e.maxUnits) ∧
    (∃ n, (∀ calls, (d.advance calls).1.length = min calls n ∧ ((d.advance calls).2.next.1 = none ↔ n ≤ calls)) ∧
      d.sizeHint.1 ≤ n ∧ n ≤ d.sizeHint.2) ∧
    (d.terminated = false → d.sizeHint.1 = d.remaining.length ⌈/⌉ e.maxUnits) := by
  refine ⟨fun r later h => next_consumes h, ⟨(e.readings d.text).length, ?_, d.sizeHint_le, d.le_sizeHint⟩, ?_⟩
  · intro calls
    exact ⟨d.length_advance calls, d.next_advance_eq_none_iff calls⟩
  · intro h
    rw [sizeHint_of_not_terminated h]

theorem progress_within_size_hint_truncated :
    (∃ taken : List UInt8, [0xE2, 0x82, 0, 0x41] = taken ++ [0, 0x41] ∧ 1 ≤ taken.length ∧ taken.length ≤ 4) ∧
    (Encoding.utf8.decoder [0xF0, 0x9F, 0x98, 0x80, 0x41]).sizeHint.1 = 5 ⌈/⌉ 4 := by
  have hnext : (Encoding.utf8.terminatedDecoder [0xE2, 0x82, 0, 0x41]).next =
      (some (.invalid (.truncated 3) 1), Encoding.utf8.terminatedDecoder [0, 0x41]) := by rfl
  constructor
  · exact (progress_within_size_hint (Encoding.utf8.terminatedDecoder [0xE2, 0x82, 0, 0x41])).1 _ _ hnext
  · exact (progress_within_size_hint (Encoding.utf8.decoder [0xF0, 0x9F, 0x98, 0x80, 0x41])).2.2 rfl

end Decoder

end UnicodeText
