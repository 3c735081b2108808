import UnicodeText.Encoding.CString
import UnicodeText.Proofs.Encoding.Boundary

namespace UnicodeText

namespace Encoding

theorem not_continues_of_isZero {e : Encoding} {u : e.CodeUnit} (h : e.isZero u = true) : ¬e.Continues u := by
  have hzero : e.unitToNat u = 0 := beq_iff_eq.mp h
  cases e with
  | utf8 =>
    have hbyte : u.toNat = 0 := hzero
    simp [Continues, Utf8.isContinuation, hbyte]
  | utf16 =>
    intro hlow
    have hunit : u.toNat = 0 := hzero
    have hbound : 0xDC00 ≤ u.toNat := hlow.1
    omega
  | utf32 => exact id

theorem terminated_append {e : Encoding} {a b : List e.CodeUnit} (ha : ∀ u ∈ a, e.isZero u = false)
    (hb : ∀ u ∈ b.head?, e.isZero u = true) : e.terminated (a ++ b) = a := by
  have hnone : e.terminated b = [] := by
    cases b with
    | nil => rfl
    | cons u b => simp [terminated, hb u rfl]
  have hall : e.terminated (a ++ b) = a ++ e.terminated b :=
    List.takeWhile_append_of_pos fun u hu => by simp [ha u hu]
  rw [hall, hnone, List.append_nil]

theorem isZero_of_mem_terminated {e : Encoding} {units : List e.CodeUnit} {u : e.CodeUnit}
    (h : u ∈ e.terminated units) : e.isZero u = false := by
  simpa using List.all_eq_true.mp List.all_takeWhile u h

theorem exists_eq_terminated_append (e : Encoding) (units : List e.CodeUnit) :
    ∃ tail, units = e.terminated units ++ tail ∧ ∀ u ∈ tail.head?, e.isZero u = true := by
  refine ⟨units.dropWhile fun u => !e.isZero u, List.takeWhile_append_dropWhile.symm, ?_⟩
  intro u hu
  simpa [Option.mem_def.mp hu] using List.head?_dropWhile_not (fun u => !e.isZero u) units

end Encoding

namespace Decoder

variable {e : Encoding} {d : Decoder e}

def text (d : Decoder e) : List e.CodeUnit := if d.terminated then e.terminated d.remaining else d.remaining

theorem text_decoder (units : List e.CodeUnit) : (e.decoder units).text = units := rfl

theorem text_terminatedDecoder (units : List e.CodeUnit) : (e.terminatedDecoder units).text = e.terminated units := rfl

theorem length_text_le (d : Decoder e) : d.text.length ≤ d.remaining.length := by
  rw [text]
  split
  · exact (List.takeWhile_sublist _).length_le
  · exact Nat.le_refl _

theorem next_of_text_eq_nil (h : d.text = []) : d.next = (none, { d with remaining := [] }) := by
  obtain ⟨remaining, terminated⟩ := d
  cases remaining with
  | nil => rfl
  | cons first rest =>
    cases terminated with
    | false => exact absurd h (List.cons_ne_nil first rest)
    | true =>
      have hzero : e.isZero first = true := by simpa [text, Encoding.terminated, List.takeWhile_cons] using h
      simp [next, hzero]

theorem next_of_text_eq_cons {first : e.CodeUnit} {rest : List e.CodeUnit} (h : d.text = first :: rest) :
    d.next.1 = some (e.read first rest) ∧ d.next.2.text = rest.drop (e.read first rest).extra ∧
      d.next.2.terminated = d.terminated := by
  obtain ⟨remaining, terminated⟩ := d
  cases terminated with
  | false =>
    obtain rfl : remaining = first :: rest := h
    exact ⟨rfl, rfl, rfl⟩
  | true =>
    have htext : e.terminated remaining = first :: rest := h
    obtain ⟨tail, hremaining, htail⟩ := e.exists_eq_terminated_append remaining
    have hzero (u : e.CodeUnit) (hu : u ∈ first :: rest) : e.isZero u = false :=
      Encoding.isZero_of_mem_terminated (htext ▸ hu)
    rw [htext, List.cons_append] at hremaining
    subst hremaining
    -- the reading does not look behind the zero, and so it ends before it
    have hread := e.read_append (fun u hu => Encoding.not_continues_of_isZero (htail u hu)) first rest
    have hdrop : (rest ++ tail).drop (e.read first rest).extra = rest.drop (e.read first rest).extra ++ tail :=
      List.drop_append_of_le_length (e.extra_read_le first rest)
    have hnext : next ⟨first :: (rest ++ tail), true⟩ =
        (some (e.read first rest), ⟨rest.drop (e.read first rest).extra ++ tail, true⟩) := by
      simp [next, hzero first List.mem_cons_self, hread, hdrop]
    rw [hnext]
    refine ⟨rfl, ?_, rfl⟩
    exact Encoding.terminated_append (fun u hu => hzero u (List.mem_cons_of_mem _ (List.mem_of_mem_drop hu))) htail

theorem next_readings (d : Decoder e) : d.next.1.toList ++ e.readings d.next.2.text = e.readings d.text := by
  cases h : d.text with
  | nil =>
    rw [next_of_text_eq_nil h]
    cases d.terminated <;> rfl
  | cons first rest =>
    obtain ⟨hread, htext, -⟩ := next_of_text_eq_cons h
    rw [hread, htext, Encoding.readings_cons]
    rfl

theorem advance_readings (d : Decoder e) (n : Nat) :
    (d.advance n).1 ++ e.readings (d.advance n).2.text = e.readings d.text := by
  induction n generalizing d with
  | zero => rfl
  | succ n ih =>
    rw [advance, List.append_assoc, ih, next_readings]

theorem length_text_next (d : Decoder e) : d.next.2.text.length ≤ d.text.length - 1 := by
  cases h : d.text with
  | nil =>
    rw [next_of_text_eq_nil h]
    cases d.terminated <;> exact Nat.le_refl 0
  | cons first rest =>
    rw [(next_of_text_eq_cons h).2.1, List.length_drop, List.length_cons]
    omega

theorem length_text_advance (d : Decoder e) (n : Nat) : (d.advance n).2.text.length ≤ d.text.length - n := by
  induction n generalizing d with
  | zero => exact Nat.le_refl _
  | succ n ih =>
    have hrest := ih d.next.2
    have hnext := d.length_text_next
    change (d.next.2.advance n).2.text.length ≤ d.text.length - (n + 1)
    omega

theorem text_collect (d : Decoder e) : d.collect.2.text = [] := by
  have hall := d.length_text_advance d.remaining.length
  have hle := d.length_text_le
  apply List.eq_nil_of_length_eq_zero
  rw [collect]
  omega

theorem collect_eq (d : Decoder e) : d.collect.1 = e.readings d.text := by
  have hreadings := d.advance_readings d.remaining.length
  rw [← collect, text_collect, Encoding.readings_nil, List.append_nil] at hreadings
  exact hreadings

theorem terminated_next (d : Decoder e) : d.next.2.terminated = d.terminated := by
  cases h : d.text with
  | nil => rw [next_of_text_eq_nil h]
  | cons first rest => exact (next_of_text_eq_cons h).2.2

theorem terminated_advance (d : Decoder e) (n : Nat) : (d.advance n).2.terminated = d.terminated := by
  induction n generalizing d with
  | zero => rfl
  | succ n ih => rw [advance, ih, terminated_next]

theorem next_eq_none_iff : d.next.1 = none ↔ d.text = [] := by
  cases h : d.text with
  | nil => simp [next_of_text_eq_nil h]
  | cons first rest => simp [(next_of_text_eq_cons h).1]

theorem next_of_remaining_eq_nil (h : d.remaining = []) : d.next = (none, d) := by
  rw [next, h]

theorem advance_of_remaining_eq_nil (h : d.remaining = []) (n : Nat) : d.advance n = ([], d) := by
  induction n with
  | zero => rfl
  | succ n ih =>
    rw [advance, next_of_remaining_eq_nil h, ih]
    rfl

theorem next_eq_some {r : Reading} {later : Decoder e} (h : d.next = (some r, later)) :
    ∃ first rest, d.remaining = first :: rest ∧ r = e.read first rest ∧ later.remaining = rest.drop r.extra := by
  obtain ⟨remaining, terminated⟩ := d
  cases remaining with
  | nil => simp [next] at h
  | cons first rest =>
    rw [next] at h
    dsimp only at h
    split at h
    · simp at h
    · obtain ⟨hr, rfl⟩ := Prod.mk.inj h
      obtain rfl := Option.some.inj hr
      exact ⟨first, rest, rfl, rfl, rfl⟩

theorem length_remaining_next {r : Reading} {later : Decoder e} (h : d.next = (some r, later)) :
    later.remaining.length < d.remaining.length := by
  obtain ⟨first, rest, hremaining, -, hlater⟩ := next_eq_some h
  rw [hremaining, hlater, List.length_drop, List.length_cons]
  omega

theorem next_of_next_eq_none (h : d.next.1 = none) (n : Nat) :
    (d.next.2.advance n).2.remaining = [] ∧ (d.next.2.advance n).2.next.1 = none := by
  have hend : d.next.2.remaining = [] := by rw [next_of_text_eq_nil (next_eq_none_iff.mp h)]
  rw [advance_of_remaining_eq_nil hend, next_of_remaining_eq_nil hend]
  exact ⟨hend, rfl⟩

end Decoder

namespace Encoding

variable (e : Encoding) (units : List e.CodeUnit)

theorem decodeTerminated_eq : e.decodeTerminated units = e.decode (e.terminated units) := by
  rw [decodeTerminated, Decoder.collect_eq, Decoder.text_terminatedDecoder]
  rfl

theorem next_terminatedDecoder : (e.terminatedDecoder units).next.1 = e.first? (e.terminated units) := by
  have htext := Decoder.text_terminatedDecoder units
  cases h : e.terminated units with
  | nil =>
    rw [h] at htext
    rw [Decoder.next_of_text_eq_nil htext]
    rfl
  | cons first rest =>
    rw [h] at htext
    exact (Decoder.next_of_text_eq_cons htext).1

theorem first?_eq_head? : e.first? units = (e.readings units).head? := by
  cases units with
  | nil => rfl
  | cons first rest => rfl

theorem first?_eq_none_iff : e.first? units = none ↔ units = [] := by
  cases units with
  | nil => simp [first?]
  | cons first rest => simp [first?]

theorem advance_decode (n : Nat) : ((e.decoder units).advance n).1.map Reading.code ++
    e.decode ((e.decoder units).advance n).2.remaining = e.decode units := by
  have hreadings := (e.decoder units).advance_readings n
  have htext : ((e.decoder units).advance n).2.text = ((e.decoder units).advance n).2.remaining := by
    rw [Decoder.text, Decoder.terminated_advance]
    rfl
  rw [htext, Decoder.text_decoder] at hreadings
  rw [decode, decode, ← hreadings, List.map_append]

theorem advance_decodeTerminated (n : Nat) : ((e.terminatedDecoder units).advance n).1.map Reading.code ++
    e.decodeTerminated ((e.terminatedDecoder units).advance n).2.remaining = e.decodeTerminated units := by
  have hreadings := (e.terminatedDecoder units).advance_readings n
  have htext : ((e.terminatedDecoder units).advance n).2.text =
      e.terminated ((e.terminatedDecoder units).advance n).2.remaining := by
    rw [Decoder.text, Decoder.terminated_advance]
    rfl
  rw [htext, Decoder.text_terminatedDecoder] at hreadings
  rw [decodeTerminated_eq, decodeTerminated_eq, decode, decode, ← hreadings, List.map_append]

theorem terminated_zero {bytes : List UInt8} (h : ∀ b ∈ bytes, b ≠ 0) (tail : List UInt8) :
    utf8.terminated (bytes ++ [0] ++ tail) = bytes := by
  rw [List.append_assoc]
  refine terminated_append (e := utf8) (fun b hb => ?_) (fun u hu => ?_)
  · simpa [isZero, unitToNat, ← UInt8.toNat_inj] using h b hb
  · obtain rfl : 0 = u := Option.some.inj hu
    rfl

theorem decoders_agree_with_decoding :
    (∀ (e : Encoding) (units : List e.CodeUnit),
      e.decodeTerminated units = e.decode (e.terminated units) ∧
      (e.terminatedDecoder units).next.1 = e.first? (e.terminated units) ∧
      (e.first? units).map Reading.code = (e.decode units).head? ∧
      (e.first? units = none ↔ units = []) ∧
      (∀ n, ((e.decoder units).advance n).1.map Reading.code ++
        e.decode ((e.decoder units).advance n).2.remaining = e.decode units) ∧
      ∀ n, ((e.terminatedDecoder units).advance n).1.map Reading.code ++
        e.decodeTerminated ((e.terminatedDecoder units).advance n).2.remaining = e.decodeTerminated units) ∧
    (∀ (e : Encoding) (d : Decoder e), d.next.1 = none →
      ∀ n, (d.next.2.advance n).2.remaining = [] ∧ (d.next.2.advance n).2.next.1 = none) ∧
    ∀ (bytes : List UInt8) (h : ∀ b ∈ bytes, b ≠ 0) (tail : List UInt8),
      utf8.decodeTerminated (bytes ++ [0] ++ tail) = CString.decode ⟨bytes, h⟩ := by
  refine ⟨fun e units => ⟨?_, ?_, ?_, ?_, ?_, ?_⟩, ?_, ?_⟩
  · exact e.decodeTerminated_eq units
  · exact e.next_terminatedDecoder units
  · rw [first?_eq_head?, decode, List.head?_map]
  · exact e.first?_eq_none_iff units
  · exact e.advance_decode units
  · exact e.advance_decodeTerminated units
  · intro e d h n
    exact Decoder.next_of_next_eq_none h n
  · intro bytes h tail
    rw [decodeTerminated_eq, terminated_zero h]
    rfl

theorem decoders_agree_with_decoding_broken :
    ((utf8.terminatedDecoder [0xE2, 0x82, 0, 0x41]).next.2.next.1 = none ∧
      (utf8.terminatedDecoder [0xE2, 0x82, 0, 0x41]).next.2.next.2.remaining = []) ∧
    ∃ h : ∀ b ∈ ([0xE2, 0x82] : List UInt8), b ≠ 0,
      utf8.decodeTerminated ([0xE2, 0x82] ++ [0] ++ [0x41]) = CString.decode ⟨[0xE2, 0x82], h⟩ := by
  have hnone : (utf8.terminatedDecoder [0xE2, 0x82, 0, 0x41]).next.2.next.1 = none := by decide
  have hbytes : ∀ b ∈ ([0xE2, 0x82] : List UInt8), b ≠ 0 := by simp
  refine ⟨⟨hnone, ?_⟩, hbytes, ?_⟩
  · exact (decoders_agree_with_decoding.2.1 .utf8 _ hnone 0).1
  · exact decoders_agree_with_decoding.2.2 [0xE2, 0x82] hbytes [0x41]

end Encoding

end UnicodeText
