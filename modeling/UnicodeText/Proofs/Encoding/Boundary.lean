import UnicodeText.Proofs.Encoding.Readings

namespace UnicodeText

namespace Utf8

theorem takeWhile_take_append {b : List UInt8} (h : ∀ u ∈ b.head?, isContinuation u = false) (count : Nat)
    (rest : List UInt8) :
    ((rest ++ b).take count).takeWhile isContinuation = (rest.take count).takeWhile isContinuation := by
  induction rest generalizing count with
  | nil =>
    cases b with
    | nil => rfl
    | cons u b => cases count <;> simp [h u rfl]
  | cons v rest ih =>
    cases count with
    | zero => rfl
    | succ count => simp [List.takeWhile_cons, ih]

theorem read_append {b : List UInt8} (h : ∀ u ∈ b.head?, isContinuation u = false) (first : UInt8)
    (rest : List UInt8) : read first (rest ++ b) = read first rest := by
  simp only [read, takeWhile_take_append h]

end Utf8

namespace Utf16

def SplitsPair (a b : List UInt16) : Prop := (∃ u ∈ a.getLast?, IsHigh u) ∧ ∃ v ∈ b.head?, IsLow v

theorem read_append {first : UInt16} {rest b : List UInt16} (h : ¬SplitsPair (first :: rest) b) :
    read first (rest ++ b) = read first rest := by
  by_cases hlow : IsLow first
  · rw [read_of_isLow hlow, read_of_isLow hlow]
  by_cases hhigh : IsHigh first
  · cases rest with
    | nil =>
      have hnext : ∀ v ∈ b.head?, ¬IsLow v := fun v hv hpair => h ⟨⟨first, rfl, hhigh⟩, v, hv, hpair⟩
      rw [List.nil_append, read_of_unpaired hhigh hnext, read_of_unpaired hhigh (by simp)]
    | cons v rest => rfl
  · rw [read_of_unit hlow hhigh, read_of_unit hlow hhigh]

end Utf16

namespace Encoding

def Continues : (e : Encoding) → e.CodeUnit → Prop
  | utf8, u => Utf8.isContinuation u = true
  | utf16, u => Utf16.IsLow u
  | utf32, _ => False

theorem read_append (e : Encoding) {b : List e.CodeUnit} (h : ∀ u ∈ b.head?, ¬e.Continues u)
    (first : e.CodeUnit) (rest : List e.CodeUnit) : e.read first (rest ++ b) = e.read first rest := by
  cases e with
  | utf8 => exact Utf8.read_append (fun u hu => Bool.eq_false_iff.mpr (h u hu)) first rest
  | utf16 => exact Utf16.read_append fun ⟨_, v, hv, hlow⟩ => h v hv hlow
  | utf32 => rfl

theorem readings_append {e : Encoding} {a b : List e.CodeUnit}
    (h : ∀ first rest, first :: rest <:+ a → e.read first (rest ++ b) = e.read first rest) :
    e.readings (a ++ b) = e.readings a ++ e.readings b := by
  induction a using e.readings_induction with
  | nil => rfl
  | cons first rest ih =>
    have hread := h first rest (List.suffix_refl _)
    have hle := e.extra_read_le first rest
    have htail := ih fun x xs hxs => h x xs (hxs.trans ((List.drop_suffix _ rest).trans (List.suffix_cons _ _)))
    rw [List.cons_append, readings_cons, readings_cons, hread, List.drop_append_of_le_length hle, htail]
    rfl

theorem readings_append_of_not_continues {e : Encoding} {b : List e.CodeUnit}
    (h : ∀ u ∈ b.head?, ¬e.Continues u) (a : List e.CodeUnit) :
    e.readings (a ++ b) = e.readings a ++ e.readings b :=
  readings_append fun first rest _ => e.read_append h first rest

theorem decode_append_of_readings {e : Encoding} {a b : List e.CodeUnit}
    (h : e.readings (a ++ b) = e.readings a ++ e.readings b) : e.decode (a ++ b) = e.decode a ++ e.decode b := by
  rw [decode, h, List.map_append]
  rfl

end Encoding

namespace Utf16

theorem readings_append_of_not_splitsPair {a b : List UInt16} (h : ¬SplitsPair a b) :
    Encoding.utf16.readings (a ++ b) = Encoding.utf16.readings a ++ Encoding.utf16.readings b := by
  apply Encoding.readings_append
  intro first rest hsuffix
  apply read_append
  rintro ⟨⟨u, hu, hhigh⟩, hlow⟩
  obtain ⟨before, rfl⟩ := hsuffix
  refine h ⟨⟨u, ?_, hhigh⟩, hlow⟩
  rw [List.getLast?_append, Option.mem_def.mp hu]
  rfl

theorem length_readings_of_splitsPair {a b : List UInt16} (h : SplitsPair a b) :
    (Encoding.utf16.readings a).length + (Encoding.utf16.readings b).length =
      (Encoding.utf16.readings (a ++ b)).length + 1 := by
  obtain ⟨⟨u, hu, hhigh⟩, v, hv, hlow⟩ := h
  obtain ⟨init, rfl⟩ := List.getLast?_eq_some_iff.mp hu
  obtain ⟨rest, rfl⟩ := List.head?_eq_some_iff.mp hv
  have hinit (t : List UInt16) : Encoding.utf16.readings (init ++ u :: t) =
      Encoding.utf16.readings init ++ Encoding.utf16.readings (u :: t) := by
    apply Encoding.readings_append_of_not_continues
    intro x hx
    obtain rfl : u = x := Option.some.inj hx
    exact not_isLow_of_isHigh hhigh
  have hsingle : Encoding.utf16.readings [u] = [.invalid (.loneHighSurrogate u) 0] := by
    rw [Encoding.readings_cons, Encoding.read_utf16, read_of_unpaired hhigh (by simp)]
    rfl
  have hsecond : Encoding.utf16.readings (v :: rest) =
      .invalid (.loneLowSurrogate v) 0 :: Encoding.utf16.readings rest := by
    rw [Encoding.readings_cons, Encoding.read_utf16, read_of_isLow hlow]
    rfl
  have hpair : Encoding.utf16.readings (u :: v :: rest) =
      .valid (joinPair u v) 1 :: Encoding.utf16.readings rest := by
    rw [Encoding.readings_cons, Encoding.read_utf16, read_of_pair hhigh hlow]
    rfl
  rw [List.append_assoc, List.singleton_append, hinit, hinit, hsingle, hsecond, hpair]
  simp only [List.length_append, List.length_cons, List.length_nil]
  omega

end Utf16

namespace Encoding

theorem decode_append_at_boundaries :
    (∀ a b : List UInt8, (∀ u ∈ b.head?, Utf8.isContinuation u = false) →
      utf8.decode (a ++ b) = utf8.decode a ++ utf8.decode b) ∧
    (∀ a b : List UInt16, utf16.decode (a ++ b) = utf16.decode a ++ utf16.decode b ↔ ¬Utf16.SplitsPair a b) ∧
    ∀ a b : List UInt32, utf32.decode (a ++ b) = utf32.decode a ++ utf32.decode b := by
  refine ⟨?_, ?_, ?_⟩
  · intro a b h
    have hcut : ∀ u ∈ b.head?, ¬utf8.Continues u := fun u hu => Bool.eq_false_iff.mp (h u hu)
    exact decode_append_of_readings (readings_append_of_not_continues (e := utf8) hcut a)
  · intro a b
    constructor
    · intro hdecode hpair
      have hcount := Utf16.length_readings_of_splitsPair hpair
      have hlength := congrArg List.length hdecode
      simp only [decode, List.length_append, List.length_map] at hlength
      omega
    · intro h
      exact decode_append_of_readings (Utf16.readings_append_of_not_splitsPair h)
  · intro a b
    exact decode_append_of_readings (readings_append_of_not_continues (e := utf32) (fun _ _ => id) a)

theorem decode_append_at_boundaries_truncated :
    (∀ u ∈ ([0xC3, 0xA9, 0x80] : List UInt8).head?, Utf8.isContinuation u = false) ∧
    utf8.decode ([0x41, 0xE2, 0x82] ++ [0xC3, 0xA9, 0x80]) =
      utf8.decode [0x41, 0xE2, 0x82] ++ utf8.decode [0xC3, 0xA9, 0x80] := by
  have hcut : ∀ u ∈ ([0xC3, 0xA9, 0x80] : List UInt8).head?, Utf8.isContinuation u = false := by
    intro u hu
    obtain rfl : 0xC3 = u := Option.some.inj hu
    rfl
  exact ⟨hcut, decode_append_at_boundaries.1 [0x41, 0xE2, 0x82] [0xC3, 0xA9, 0x80] hcut⟩

end Encoding

end UnicodeText
