import UnicodeText.Proofs.Encoding.Validation

namespace UnicodeText

namespace Encoding

def ReadsAs (e : Encoding) (c : Code) (r : Reading) : Prop :=
  ∀ rest, e.readings (e.encodeCode c ++ rest) = r :: e.readings rest

theorem readsAs_of_read (e : Encoding) {c x : Code} {first : e.CodeUnit} {tail : List e.CodeUnit}
    (hcode : e.encodeCode c = first :: tail) (h : ∀ rest, e.read first (tail ++ rest) = .valid x tail.length) :
    e.ReadsAs c (.valid x ((e.encodeCode c).length - 1)) := by
  intro rest
  rw [hcode, List.cons_append, readings_cons, h rest, List.length_cons, Nat.add_sub_cancel]
  simp [Reading.valid]

theorem readings_encode {e : Encoding} {f : Code → Reading} {s : List Code} (h : ∀ c ∈ s, e.ReadsAs c (f c)) :
    e.readings (e.encode s) = s.map f := by
  induction s with
  | nil => rfl
  | cons c s ih =>
    have hencode : e.encode (c :: s) = e.encodeCode c ++ e.encode s := List.flatMap_cons
    rw [hencode, h c List.mem_cons_self, ih fun x hx => h x (List.mem_cons_of_mem c hx), List.map_cons]

theorem decode_encode_of_readsAs {e : Encoding} {f : Code → Reading} {s : List Code}
    (h : ∀ c ∈ s, e.ReadsAs c (f c)) : e.decode (e.encode s) = s.map fun c => (f c).code := by
  rw [decode, readings_encode h, List.map_map]
  rfl

theorem validate_encode_of_readsAs {e : Encoding} {f : Code → Reading} {s : List Code}
    (h : ∀ c ∈ s, e.ReadsAs c (f c)) (hvalid : ∀ c ∈ s, (f c).replaced = none) :
    e.validate (e.encode s) = .ok () := by
  rw [validate_eq_ok_iff, readings_encode h]
  intro r hr
  obtain ⟨c, hc, rfl⟩ := List.mem_map.mp hr
  exact hvalid c hc

end Encoding

namespace Utf8

theorem read_of_lead? {first : UInt8} {high : Nat} {tail : List UInt8} (hlead : lead? first = some (tail.length, high))
    (htail : ∀ b ∈ tail, isContinuation b = true) (rest : List UInt8) :
    read first (tail ++ rest) = .valid (UInt32.ofNat (joinBits high tail)) tail.length := by
  have htake : (tail ++ rest).take tail.length = tail := List.take_left
  have hwhile : (tail ++ []).takeWhile isContinuation = tail ++ [].takeWhile isContinuation :=
    List.takeWhile_append_of_pos htail
  rw [List.takeWhile_nil, List.append_nil] at hwhile
  rw [read, hlead]
  dsimp only
  rw [htake, hwhile, if_pos rfl]

def continuation (bits : Nat) : UInt8 := UInt8.ofNat (0x80 + bits % 64)

theorem toNat_ofNat {n : Nat} (h : n < 256) : (UInt8.ofNat n).toNat = n := UInt8.toNat_ofNat_of_lt' h

theorem toNat_continuation (bits : Nat) : (continuation bits).toNat = 0x80 + bits % 64 := toNat_ofNat (by omega)

theorem isContinuation_continuation (bits : Nat) : isContinuation (continuation bits) = true := by
  have hbits : bits % 64 < 64 := Nat.mod_lt _ (by decide)
  rw [isContinuation, toNat_continuation]
  simp only [Bool.and_eq_true, decide_eq_true_eq]
  omega

theorem continuation_mod (bits : Nat) : (continuation bits).toNat % 64 = bits % 64 := by
  rw [toNat_continuation]
  omega

theorem lead?_ofNat_one {n : Nat} (h : n < 0x80) : lead? (UInt8.ofNat n) = some (0, n) := by
  rw [lead?, toNat_ofNat (by omega), if_pos h]

theorem lead?_ofNat_two {n : Nat} (h : n < 0x20) : lead? (UInt8.ofNat (0xC0 + n)) = some (1, n) := by
  rw [lead?, toNat_ofNat (by omega), if_neg (by omega), if_neg (by omega), if_pos (by omega), Nat.add_sub_cancel_left]

theorem lead?_ofNat_three {n : Nat} (h : n < 0x10) : lead? (UInt8.ofNat (0xE0 + n)) = some (2, n) := by
  rw [lead?, toNat_ofNat (by omega), if_neg (by omega), if_neg (by omega), if_neg (by omega), if_pos (by omega),
    Nat.add_sub_cancel_left]

theorem lead?_ofNat_four {n : Nat} (h : n < 0x08) : lead? (UInt8.ofNat (0xF0 + n)) = some (3, n) := by
  rw [lead?, toNat_ofNat (by omega), if_neg (by omega), if_neg (by omega), if_neg (by omega), if_neg (by omega),
    if_pos (by omega), Nat.add_sub_cancel_left]

theorem readsAs_of_sequence {c x : Code} {first : UInt8} {high : Nat} (bits : List Nat)
    (hcode : encodeCode c = first :: bits.map continuation) (hlead : lead? first = some (bits.length, high))
    (hbits : joinBits high (bits.map continuation) = x.toNat) :
    Encoding.utf8.ReadsAs c (.valid x ((encodeCode c).length - 1)) := by
  apply Encoding.readsAs_of_read .utf8 hcode
  intro rest
  have htail : ∀ b ∈ bits.map continuation, isContinuation b = true := by
    intro b hb
    obtain ⟨n, _, rfl⟩ := List.mem_map.mp hb
    exact isContinuation_continuation n
  rw [← List.length_map (f := continuation)] at hlead
  rw [Encoding.read_utf8, read_of_lead? hlead htail, hbits, UInt32.ofNat_toNat]

theorem readsAs_of_inCodeSpace {c : Code} (h : InCodeSpace c) :
    Encoding.utf8.ReadsAs c (.valid c ((encodeCode c).length - 1)) := by
  have hspace : c.toNat < 0x110000 := h
  by_cases hone : c.toNat < 0x80
  · have hcode : encodeCode c = [UInt8.ofNat c.toNat] := if_pos hone
    exact readsAs_of_sequence [] hcode (lead?_ofNat_one hone) rfl
  by_cases htwo : c.toNat < 0x800
  · have hcode : encodeCode c = [UInt8.ofNat (0xC0 + c.toNat / 64), continuation c.toNat] := by
      rw [encodeCode]
      simp only [if_neg hone, if_pos htwo, continuation]
    refine readsAs_of_sequence [c.toNat] hcode (lead?_ofNat_two (by omega)) ?_
    simp only [joinBits, List.map_cons, List.map_nil, List.foldl_cons, List.foldl_nil, continuation_mod]
    omega
  by_cases hthree : c.toNat < 0x10000
  · have hcode : encodeCode c =
        [UInt8.ofNat (0xE0 + c.toNat / 4096), continuation (c.toNat / 64), continuation c.toNat] := by
      rw [encodeCode]
      simp only [if_neg hone, if_neg htwo, if_pos hthree, continuation]
    refine readsAs_of_sequence [c.toNat / 64, c.toNat] hcode (lead?_ofNat_three (by omega)) ?_
    simp only [joinBits, List.map_cons, List.map_nil, List.foldl_cons, List.foldl_nil, continuation_mod]
    omega
  · have hcode : encodeCode c = [UInt8.ofNat (0xF0 + c.toNat / 262144), continuation (c.toNat / 4096),
        continuation (c.toNat / 64), continuation c.toNat] := by
      rw [encodeCode]
      simp only [if_neg hone, if_neg htwo, if_neg hthree, if_pos h, continuation]
    refine readsAs_of_sequence [c.toNat / 4096, c.toNat / 64, c.toNat] hcode
      (lead?_ofNat_four (by omega)) ?_
    simp only [joinBits, List.map_cons, List.map_nil, List.foldl_cons, List.foldl_nil, continuation_mod]
    omega

theorem readsAs_replacement {c : Code} (h : ¬InCodeSpace c) :
    Encoding.utf8.ReadsAs c (.valid replacement ((encodeCode c).length - 1)) := by
  have hcode : encodeCode c = [replacement.toUInt8] := by
    have hspace : ¬c.toNat < 0x110000 := h
    rw [encodeCode]
    simp only [if_neg (show ¬c.toNat < 0x80 by omega), if_neg (show ¬c.toNat < 0x800 by omega),
      if_neg (show ¬c.toNat < 0x10000 by omega), if_neg h]
  exact readsAs_of_sequence [] hcode (lead?_ofNat_one (by decide : 0x3F < 0x80)) rfl

theorem readsAs (c : Code) :
    Encoding.utf8.ReadsAs c (.valid (if InCodeSpace c then c else replacement) ((encodeCode c).length - 1)) := by
  split
  next h => exact readsAs_of_inCodeSpace h
  next h => exact readsAs_replacement h

end Utf8

namespace Utf16

theorem toNat_ofNat {n : Nat} (h : n < 65536) : (UInt16.ofNat n).toNat = n := UInt16.toNat_ofNat_of_lt' h

theorem joinPair_ofNat {c : Code} (hlow : 0x10000 ≤ c.toNat) (hhigh : c.toNat < 0x110000) :
    let high := UInt16.ofNat (0xD800 + (c.toNat - 0x10000) / 1024)
    let low := UInt16.ofNat (0xDC00 + (c.toNat - 0x10000) % 1024)
    IsHigh high ∧ IsLow low ∧ joinPair high low = c := by
  have hdiv : (c.toNat - 0x10000) / 1024 < 1024 := by omega
  have hmod : (c.toNat - 0x10000) % 1024 < 1024 := Nat.mod_lt _ (by decide)
  have hnumber : 0x10000 + (0xD800 + (c.toNat - 0x10000) / 1024 - 0xD800) * 1024 +
      (0xDC00 + (c.toNat - 0x10000) % 1024 - 0xDC00) = c.toNat := by omega
  simp only [IsHigh, IsLow, joinPair]
  rw [toNat_ofNat (by omega), toNat_ofNat (by omega), hnumber, UInt32.ofNat_toNat]
  exact ⟨by omega, by omega, rfl⟩

theorem readsAs_of_isScalar {c : Code} (h : IsScalar c) :
    Encoding.utf16.ReadsAs c (.valid c ((encodeCode c).length - 1)) := by
  obtain ⟨hspace, hsurrogate⟩ := h
  by_cases hone : c.toNat < 0x10000
  · have hcode : encodeCode c = [UInt16.ofNat c.toNat] := if_pos hone
    apply Encoding.readsAs_of_read .utf16 hcode
    intro rest
    have hunit : (UInt16.ofNat c.toNat).toUInt32 = c := by
      apply UInt32.toNat_inj.mp
      rw [UInt16.toNat_toUInt32, toNat_ofNat hone]
    have hlow : ¬IsLow (UInt16.ofNat c.toNat) := by
      rw [IsLow, toNat_ofNat hone]
      omega
    have hhigh : ¬IsHigh (UInt16.ofNat c.toNat) := by
      rw [IsHigh, toNat_ofNat hone]
      omega
    rw [Encoding.read_utf16, read_of_unit hlow hhigh, hunit]
    rfl
  · have hcode : encodeCode c = [UInt16.ofNat (0xD800 + (c.toNat - 0x10000) / 1024),
        UInt16.ofNat (0xDC00 + (c.toNat - 0x10000) % 1024)] := by
      rw [encodeCode]
      simp only [if_neg hone, if_pos hspace]
    apply Encoding.readsAs_of_read .utf16 hcode
    intro rest
    obtain ⟨hhigh, hlow, hpair⟩ := joinPair_ofNat (Nat.le_of_not_lt hone) hspace
    rw [Encoding.read_utf16, List.singleton_append, read_of_pair hhigh hlow, hpair]
    rfl

end Utf16

namespace Utf32

theorem readsAs (c : Code) :
    Encoding.utf32.ReadsAs c (read (if InCodeSpace c then c else replacement) []) := by
  intro rest
  have hcode : Encoding.utf32.encodeCode c = [if InCodeSpace c then c else replacement] := by
    change encodeCode c = _
    rw [encodeCode]
    split
    · rfl
    · rfl
  rw [hcode, List.singleton_append, Encoding.readings_cons, Encoding.read_utf32, extra_read, List.drop_zero]
  rfl

theorem code_read (c : Code) :
    (read (if InCodeSpace c then c else replacement) []).code = if IsScalar c then c else replacement := by
  by_cases hspace : InCodeSpace c
  -- a surrogate is written as it is, so it does not come back
  · rw [if_pos hspace, read]
    split
    · rfl
    · rfl
  · have hscalar : ¬IsScalar c := fun h => hspace h.1
    rw [if_neg hspace, if_neg hscalar]
    rfl

end Utf32

namespace Encoding

theorem readsAs_of_isScalar (e : Encoding) {c : Code} (h : IsScalar c) :
    e.ReadsAs c (.valid c ((e.encodeCode c).length - 1)) := by
  cases e with
  | utf8 => exact Utf8.readsAs_of_inCodeSpace h.1
  | utf16 => exact Utf16.readsAs_of_isScalar h
  | utf32 =>
    have hcode : utf32.encodeCode c = [c] := if_pos h.1
    apply readsAs_of_read utf32 hcode
    intro rest
    exact if_pos h

theorem codec_round_trip (s : List Code) :
    ((∀ c ∈ s, IsScalar c) →
      (∀ a : Encoding, a.validate (a.encode s) = .ok () ∧ a.decode (a.encode s) = s) ∧
      ∀ a b : Encoding, b.encode (a.decode (a.encode s)) = b.encode s) ∧
    utf8.decode (utf8.encode s) = (s.map fun c => if InCodeSpace c then c else replacement) ∧
    utf32.decode (utf32.encode s) = (s.map fun c => if IsScalar c then c else replacement) ∧
    utf8.validate (utf8.encode s) = .ok () := by
  refine ⟨?_, ?_, ?_, ?_⟩
  · intro hs
    have hreads (a : Encoding) (c : Code) (hc : c ∈ s) := a.readsAs_of_isScalar (hs c hc)
    have hdecode (a : Encoding) : a.decode (a.encode s) = s := by
      rw [decode_encode_of_readsAs (hreads a)]
      exact List.map_id s
    refine ⟨fun a => ⟨validate_encode_of_readsAs (hreads a) fun c _ => rfl, hdecode a⟩, ?_⟩
    intro a b
    rw [hdecode a]
  · exact decode_encode_of_readsAs fun c _ => Utf8.readsAs c
  · rw [decode_encode_of_readsAs fun c _ => Utf32.readsAs c]
    simp only [Utf32.code_read]
  · exact validate_encode_of_readsAs (fun c _ => Utf8.readsAs c) fun c _ => rfl

def boundaries : List Code := [0, 0x7F, 0x80, 0x7FF, 0x800, 0xD7FF, 0xE000, 0xFFFF, 0x10000, 0x10FFFF]

theorem codec_round_trip_boundaries :
    (∀ a : Encoding, a.validate (a.encode boundaries) = .ok () ∧ a.decode (a.encode boundaries) = boundaries) ∧
    ∀ a b : Encoding, b.encode (a.decode (a.encode boundaries)) = b.encode boundaries := by
  have hscalar : boundaries.all (fun c => decide (IsScalar c)) = true := by decide
  apply (codec_round_trip boundaries).1
  intro c hc
  exact of_decide_eq_true (List.all_eq_true.mp hscalar c hc)

end Encoding

end UnicodeText
