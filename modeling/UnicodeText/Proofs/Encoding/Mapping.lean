import UnicodeText.Proofs.Encoding.Decoder
import UnicodeText.Proofs.Encoding.Reencoding

namespace UnicodeText

theorem Decoder.mapWithin_eq {e : Encoding} (f : Code → Code) {d : Decoder e} {calls : Nat}
    (h : d.remaining.length ≤ calls) :
    d.mapWithin f calls = e.encode ((e.readings d.text).map fun r => f r.code) := by
  induction calls generalizing d with
  | zero =>
    have hend := List.eq_nil_of_length_eq_zero (Nat.le_zero.mp h)
    have htext : d.text = [] := next_eq_none_iff.mp (by rw [next_of_remaining_eq_nil hend])
    rw [htext]
    rfl
  | succ calls ih =>
    have hreadings := d.next_readings
    rw [mapWithin]
    obtain ⟨⟨_ | r, later⟩, hnext⟩ : ∃ p, d.next = p := ⟨_, rfl⟩
    · have htext : d.text = [] := next_eq_none_iff.mp (by rw [hnext])
      rw [hnext, htext]
      rfl
    · have hlater := length_remaining_next hnext
      rw [hnext] at hreadings ⊢
      rw [← hreadings]
      dsimp only
      rw [ih (by omega)]
      rfl

namespace Encoding

variable {e : Encoding} {s : List Code}

theorem map_eq (e : Encoding) (f : Code → Code) (units : List e.CodeUnit) :
    e.map f units = e.encode ((e.decode units).map f) := by
  have hcalls : (e.decoder units).remaining.length ≤ units.length := Nat.le_refl _
  rw [map, Decoder.mapWithin_eq f hcalls, Decoder.text_decoder, decode, List.map_map]
  rfl

/-- The codes that come back when they are written and read. -/
def Keeps : Encoding → Code → Prop
  | utf8 => InCodeSpace
  | utf16 => IsScalar
  | utf32 => IsScalar

instance (e : Encoding) : DecidablePred e.Keeps :=
  match e with
  | utf8 => fun c => inferInstanceAs (Decidable (InCodeSpace c))
  | utf16 => fun c => inferInstanceAs (Decidable (IsScalar c))
  | utf32 => fun c => inferInstanceAs (Decidable (IsScalar c))

theorem keeps_of_isScalar (e : Encoding) {c : Code} (h : IsScalar c) : e.Keeps c := by
  cases e with
  | utf8 => exact h.1
  | utf16 => exact h
  | utf32 => exact h

theorem decode_encode_of_keeps (h : ∀ c ∈ s, e.Keeps c) : e.decode (e.encode s) = s := by
  cases e with
  | utf8 => rw [Utf8.decode_encode, Utf8.map_writtenCode h]
  | utf16 => exact utf16.decode_encode_of_isScalar h
  | utf32 => exact utf32.decode_encode_of_isScalar h

theorem keeps_of_mem_decode_encode {c : Code} (h : c ∈ e.decode (e.encode s)) : e.Keeps c := by
  by_cases he : e = utf8
  · subst he
    rw [Utf8.decode_encode] at h
    obtain ⟨x, -, rfl⟩ := List.mem_map.mp h
    exact Utf8.inCodeSpace_writtenCode x
  · exact e.keeps_of_isScalar (isScalar_of_mem_decode he h)

theorem eq_of_encode_eq {t : List Code} (hs : ∀ c ∈ s, IsScalar c) (ht : ∀ c ∈ t, IsScalar c)
    (h : e.encode s = e.encode t) : s = t := by
  rw [← e.decode_encode_of_isScalar hs, h, e.decode_encode_of_isScalar ht]

def keptFlag (e : Encoding) (c : Code) : Code := if e.Keeps c then 0 else 1

theorem keptFlag_eq_zero_iff {c : Code} : e.keptFlag c = 0 ↔ e.Keeps c := by
  rw [keptFlag]
  split
  next h => exact iff_of_true rfl h
  next h => exact iff_of_false (by decide) h

theorem isScalar_keptFlag (e : Encoding) (c : Code) : IsScalar (e.keptFlag c) := by
  rw [keptFlag]
  split <;> decide

theorem keeps_of_map_keptFlag (h : e.encode ((e.decode (e.encode s)).map e.keptFlag) = e.encode (s.map e.keptFlag)) :
    ∀ c ∈ s, e.Keeps c := by
  intro c hc
  have hscalar (codes : List Code) : ∀ x ∈ codes.map e.keptFlag, IsScalar x :=
    List.forall_mem_map.mpr fun x _ => e.isScalar_keptFlag x
  have hflags : (e.decode (e.encode s)).map e.keptFlag = s.map e.keptFlag :=
    eq_of_encode_eq (hscalar _) (hscalar _) h
  have hflag : e.keptFlag c ∈ (e.decode (e.encode s)).map e.keptFlag := hflags ▸ List.mem_map_of_mem hc
  obtain ⟨x, hx, hxc⟩ := List.mem_map.mp hflag
  rw [← keptFlag_eq_zero_iff, ← hxc, keptFlag_eq_zero_iff]
  exact keeps_of_mem_decode_encode hx

theorem map_fuses (e : Encoding) (units : List e.CodeUnit) (f : Code → Code) :
    e.map f units = e.encode ((e.decode units).map f) ∧
    ((∀ c ∈ e.decode units, e.Keeps (f c)) ↔
      ∀ g : Code → Code, e.map g (e.map f units) = e.map (g ∘ f) units) := by
  refine ⟨e.map_eq f units, ?_⟩
  rw [← List.forall_mem_map]
  constructor
  · intro hkeeps g
    rw [map_eq, map_eq, map_eq, decode_encode_of_keeps hkeeps, List.map_map]
  · intro hfuse
    have hpasses := hfuse e.keptFlag
    rw [map_eq, map_eq, map_eq, ← List.map_map] at hpasses
    exact keeps_of_map_keptFlag hpasses

end Encoding

end UnicodeText
