import UnicodeText.Proofs.Encoding.CodeSpace

namespace UnicodeText

namespace Utf8

/-- The code that is read back where `c` is written. -/
def writtenCode (c : Code) : Code := if InCodeSpace c then c else replacement

theorem writtenCode_of_inCodeSpace {c : Code} (h : InCodeSpace c) : writtenCode c = c := if_pos h

theorem writtenCode_of_not_inCodeSpace {c : Code} (h : ¬InCodeSpace c) : writtenCode c = replacement := if_neg h

theorem inCodeSpace_writtenCode (c : Code) : InCodeSpace (writtenCode c) := by
  rw [writtenCode]
  split
  next h => exact h
  next => exact isScalar_replacement.1

theorem map_writtenCode {s : List Code} (h : ∀ c ∈ s, InCodeSpace c) : s.map writtenCode = s :=
  (List.map_congr_left fun c hc => writtenCode_of_inCodeSpace (h c hc)).trans (List.map_id' s)

theorem decode_encode (s : List Code) : Encoding.utf8.decode (Encoding.utf8.encode s) = s.map writtenCode :=
  Encoding.decode_encode_of_readsAs fun c _ => readsAs c

theorem encodeCode_writtenCode (c : Code) : encodeCode (writtenCode c) = encodeCode c := by
  by_cases h : InCodeSpace c
  · rw [writtenCode_of_inCodeSpace h]
  · have hspace : ¬c.toNat < 0x110000 := h
    rw [writtenCode_of_not_inCodeSpace h, encodeCode, encodeCode]
    simp only [if_neg h, if_neg (show ¬c.toNat < 0x80 by omega), if_neg (show ¬c.toNat < 0x800 by omega),
      if_neg (show ¬c.toNat < 0x10000 by omega)]
    rfl

theorem encode_map_writtenCode (s : List Code) :
    Encoding.utf8.encode (s.map writtenCode) = Encoding.utf8.encode s := by
  rw [Encoding.encode, List.flatMap_map]
  exact List.flatMap_congr fun c _ => encodeCode_writtenCode c

theorem length_encodeCode_le {c : Code} {extra : Nat} (h : c.toNat < sequenceLimit extra) :
    (encodeCode c).length ≤ extra + 1 := by
  dsimp only [encodeCode]
  rcases extra with _ | _ | _ | extra <;> simp only [sequenceLimit] at h <;> split_ifs <;>
    simp only [List.length_cons, List.length_nil] <;> omega

end Utf8

namespace Utf16

variable {u v : UInt16}

theorem encodeCode_toUInt32 (u : UInt16) : encodeCode u.toUInt32 = [u] := by
  have hunit : u.toUInt32.toNat < 0x10000 := u.toNat_toUInt32 ▸ u.toNat_lt
  rw [encodeCode, if_pos hunit, UInt16.toNat_toUInt32, UInt16.ofNat_toNat]

theorem encodeCode_joinPair (hu : IsHigh u) (hv : IsLow v) : encodeCode (joinPair u v) = [u, v] := by
  have hcode := toNat_joinPair hu hv
  have hlow : ¬(joinPair u v).toNat < 0x10000 := by omega
  have hhigh : 0xD800 + ((joinPair u v).toNat - 0x10000) / 1024 = u.toNat := by omega
  have hrest : 0xDC00 + ((joinPair u v).toNat - 0x10000) % 1024 = v.toNat := by omega
  rw [encodeCode, if_neg hlow, if_pos (isScalar_joinPair hu hv).1, hhigh, hrest, UInt16.ofNat_toNat,
    UInt16.ofNat_toNat]

theorem length_encodeCode_read_le (u : UInt16) (rest : List UInt16) :
    (encodeCode (read u rest).code).length ≤ (read u rest).extra + 1 := by
  rcases read_cases u rest with ⟨cause, hread⟩ | ⟨-, -, hread⟩ | ⟨v, later, -, hu, hv, hread⟩
  · rw [hread]
    exact Nat.le_refl 1
  · rw [hread, Reading.valid, encodeCode_toUInt32]
    exact Nat.le_refl 1
  · rw [hread, Reading.valid, encodeCode_joinPair hu hv]
    exact Nat.le_refl 2

theorem encodeCode_read {rest : List UInt16} (h : (read u rest).replaced = none) :
    encodeCode (read u rest).code = u :: rest.take (read u rest).extra := by
  rcases read_cases u rest with ⟨cause, hread⟩ | ⟨-, -, hread⟩ | ⟨v, later, rfl, hu, hv, hread⟩
  · simp [hread, Reading.invalid] at h
  · rw [hread, Reading.valid, encodeCode_toUInt32]
    rfl
  · rw [hread, Reading.valid, encodeCode_joinPair hu hv]
    rfl

end Utf16

namespace Utf32

theorem length_encodeCode (c : Code) : (encodeCode c).length = 1 := by
  unfold encodeCode
  split
  · rfl
  · rfl

theorem encodeCode_read {c : Code} {rest : List UInt32} (h : (read c rest).replaced = none) :
    encodeCode (read c rest).code = c :: rest.take (read c rest).extra := by
  rw [read] at h ⊢
  split
  next hc => exact if_pos hc.1
  next hc => simp [hc, Reading.invalid] at h

end Utf32

namespace Encoding

variable {e : Encoding}

theorem length_encodeCode_read_le (e : Encoding) (first : e.CodeUnit) (rest : List e.CodeUnit) :
    (e.encodeCode (e.read first rest).code).length ≤ (e.read first rest).extra + 1 := by
  cases e with
  | utf8 => exact Utf8.length_encodeCode_le (Utf8.toNat_code_read_lt first rest)
  | utf16 => exact Utf16.length_encodeCode_read_le first rest
  | utf32 => exact Nat.le_add_left_of_le (Nat.le_of_eq (Utf32.length_encodeCode _))

theorem encodeCode_read (he : e ≠ utf8) {first : e.CodeUnit} {rest : List e.CodeUnit}
    (h : (e.read first rest).replaced = none) :
    e.encodeCode (e.read first rest).code = first :: rest.take (e.read first rest).extra := by
  cases e with
  | utf8 => exact absurd rfl he
  | utf16 => exact Utf16.encodeCode_read h
  | utf32 => exact Utf32.encodeCode_read h

theorem encode_decode_cons (first : e.CodeUnit) (rest : List e.CodeUnit) :
    e.encode (e.decode (first :: rest)) = e.encodeCode (e.read first rest).code ++
      e.encode (e.decode (rest.drop (e.read first rest).extra)) := by
  rw [decode, readings_cons, List.map_cons, encode, List.flatMap_cons]
  rfl

theorem length_encode_decode_le (e : Encoding) (units : List e.CodeUnit) :
    (e.encode (e.decode units)).length ≤ units.length := by
  induction units using e.readings_induction with
  | nil => exact Nat.le_refl 0
  | cons first rest ih =>
    have hcode := e.length_encodeCode_read_le first rest
    have hextra := e.extra_read_le first rest
    rw [List.length_drop] at ih
    rw [encode_decode_cons, List.length_append, List.length_cons]
    omega

theorem encode_decode_of_validate (he : e ≠ utf8) {units : List e.CodeUnit} (h : e.validate units = .ok ()) :
    e.encode (e.decode units) = units := by
  rw [validate_eq_ok_iff] at h
  induction units using e.readings_induction with
  | nil => rfl
  | cons first rest ih =>
    rw [readings_cons] at h
    have hread := encodeCode_read he (h _ List.mem_cons_self)
    have hrest := ih fun r hr => h r (List.mem_cons_of_mem _ hr)
    rw [encode_decode_cons, hread, hrest, List.cons_append, List.take_append_drop]

theorem decode_encode_of_isScalar (e : Encoding) {s : List Code} (hs : ∀ c ∈ s, IsScalar c) :
    e.decode (e.encode s) = s := by
  rw [decode_encode_of_readsAs fun c hc => e.readsAs_of_isScalar (hs c hc)]
  exact List.map_id s

theorem validate_encode_of_isScalar (e : Encoding) {s : List Code} (hs : ∀ c ∈ s, IsScalar c) :
    e.validate (e.encode s) = .ok () :=
  validate_encode_of_readsAs (fun c hc => e.readsAs_of_isScalar (hs c hc)) fun _ _ => rfl

theorem validate_encode_decode (e : Encoding) (units : List e.CodeUnit) :
    e.validate (e.encode (e.decode units)) = .ok () := by
  by_cases he : e = utf8
  · subst he
    exact validate_encode_of_readsAs (fun c _ => Utf8.readsAs c) fun _ _ => rfl
  · exact e.validate_encode_of_isScalar fun c hc => isScalar_of_mem_decode he hc

theorem encode_decode_encode_decode (e : Encoding) (units : List e.CodeUnit) :
    e.encode (e.decode (e.encode (e.decode units))) = e.encode (e.decode units) := by
  by_cases he : e = utf8
  · subst he
    rw [Utf8.decode_encode, Utf8.encode_map_writtenCode]
  · rw [e.decode_encode_of_isScalar fun c hc => isScalar_of_mem_decode he hc]

theorem isValid_iff {units : List e.CodeUnit} : e.isValid units = true ↔ e.validate units = .ok () := by
  rw [isValid]
  cases e.validate units with
  | ok _ => exact iff_of_true rfl rfl
  | error _ => exact iff_of_false Bool.false_ne_true nofun

theorem reencoding_canonicalises (e : Encoding) (units : List e.CodeUnit) :
    let r := e.encode (e.decode units)
    e.validate r = .ok () ∧ r.length ≤ units.length ∧ e.encode (e.decode r) = r ∧
    (r = units → e.isValid units = true) ∧
    (e ≠ utf8 → (r = units ↔ e.isValid units = true) ∧
      (e.isValid units = true ↔ ∃ s : List Code, (∀ c ∈ s, IsScalar c) ∧ units = e.encode s)) := by
  have hvalid : e.encode (e.decode units) = units → e.isValid units = true := by
    intro h
    rw [isValid_iff, ← h]
    exact e.validate_encode_decode units
  refine ⟨e.validate_encode_decode units, e.length_encode_decode_le units, e.encode_decode_encode_decode units,
    hvalid, fun he => ⟨⟨hvalid, fun h => encode_decode_of_validate he (isValid_iff.mp h)⟩, ?_⟩⟩
  constructor
  · intro h
    exact ⟨e.decode units, fun c hc => isScalar_of_mem_decode he hc,
      (encode_decode_of_validate he (isValid_iff.mp h)).symm⟩
  · rintro ⟨s, hs, rfl⟩
    exact isValid_iff.mpr (e.validate_encode_of_isScalar hs)

theorem reencoding_canonicalises_surrogates :
    (utf8.encode (utf8.decode [0xED, 0xA0, 0x80]) = [0xED, 0xA0, 0x80] ∧ utf8.isValid [0xED, 0xA0, 0x80] = true) ∧
    utf16.encode (utf16.decode [0xD83D, 0xDE00, 0x41]) = [0xD83D, 0xDE00, 0x41] ∧
    ∃ s : List Code, (∀ c ∈ s, IsScalar c) ∧ [0xD83D, 0xDE00, 0x41] = utf16.encode s := by
  have hsurrogate : utf8.encode (utf8.decode [0xED, 0xA0, 0x80]) = [0xED, 0xA0, 0x80] := by decide
  have hvalid : utf16.isValid [0xD83D, 0xDE00, 0x41] = true := by decide
  obtain ⟨-, -, -, hkept, -⟩ := reencoding_canonicalises .utf8 [0xED, 0xA0, 0x80]
  obtain ⟨-, -, -, -, hpair⟩ := reencoding_canonicalises .utf16 [0xD83D, 0xDE00, 0x41]
  obtain ⟨hsame, hscalars⟩ := hpair (by decide)
  exact ⟨⟨hsurrogate, hkept hsurrogate⟩, hsame.mpr hvalid, hscalars.mp hvalid⟩

end Encoding

end UnicodeText
