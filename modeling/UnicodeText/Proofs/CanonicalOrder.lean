import Mathlib.Data.List.Chain
import UnicodeText.CanonicalOrder

namespace UnicodeText

def MayPrecede (a b : Code) : Prop := IsStarter b ∨ combiningClass a ≤ combiningClass b

def InOrder (s : List Code) : Prop := s.IsChain MayPrecede

theorem perm_insertMark (c : Code) (before : List Code) : (insertMark c before).Perm (c :: before) := by
  induction before with
  | nil => exact .refl _
  | cons last before ih =>
    rw [insertMark]
    split
    · exact (ih.cons last).trans (.swap c last before)
    · exact .refl _

theorem exists_insertMark_eq (c : Code) (before : List Code) :
    ∃ later earlier, before = later ++ earlier ∧ insertMark c before = later ++ c :: earlier ∧
      ∀ y ∈ later, combiningClass c < combiningClass y := by
  induction before with
  | nil => exact ⟨[], [], rfl, rfl, by simp⟩
  | cons last before ih =>
    rw [insertMark]
    split
    next hlt =>
      obtain ⟨later, earlier, hbefore, hinsert, hlater⟩ := ih
      refine ⟨last :: later, earlier, by rw [hbefore]; rfl, by rw [hinsert]; rfl, ?_⟩
      intro y hy
      rcases List.mem_cons.mp hy with rfl | hy
      · exact hlt
      · exact hlater y hy
    next => exact ⟨[], last :: before, rfl, rfl, by simp⟩

theorem perm_placeCode (before : List Code) (c : Code) : (placeCode before c).Perm (c :: before) := by
  rw [placeCode]
  split
  · exact .refl _
  · exact perm_insertMark c before

theorem perm_foldl_placeCode (s before : List Code) : (s.foldl placeCode before).Perm (before ++ s) := by
  induction s generalizing before with
  | nil => simp
  | cons c s ih =>
    rw [List.foldl_cons]
    calc (s.foldl placeCode (placeCode before c)).Perm (placeCode before c ++ s) := ih _
      _ |>.Perm (c :: before ++ s) := (perm_placeCode before c).append_right s
      _ |>.Perm (before ++ c :: s) := List.perm_middle.symm

theorem perm_canonicalOrder (s : List Code) : (canonicalOrder s).Perm s :=
  (List.reverse_perm _).trans (perm_foldl_placeCode s [])

theorem mem_canonicalOrder {s : List Code} {c : Code} : c ∈ canonicalOrder s ↔ c ∈ s :=
  (perm_canonicalOrder s).mem_iff

section Filter

variable {p : Code → Bool} (hp : ∀ a b, p a = true → p b = true → combiningClass a = combiningClass b)

include hp

theorem filter_placeCode (before : List Code) (c : Code) : (placeCode before c).filter p = (c :: before).filter p := by
  rw [placeCode]
  split
  next => rfl
  next hc =>
    obtain ⟨later, earlier, rfl, hinsert, hlater⟩ := exists_insertMark_eq c before
    rw [hinsert]
    cases hkept : p c with
    | false => simp [hkept]
    | true =>
      -- what the mark passes is of another class, and nothing of it is kept
      have hpassed : later.filter p = [] := by
        rw [List.filter_eq_nil_iff]
        intro y hy hky
        exact absurd (hp c y hkept hky) (Nat.ne_of_lt (hlater y hy))
      simp [hkept, hpassed]

theorem filter_foldl_placeCode (s before : List Code) :
    (s.foldl placeCode before).filter p = (s.reverse ++ before).filter p := by
  induction s generalizing before with
  | nil => rfl
  | cons c s ih =>
    rw [List.foldl_cons, ih, List.filter_append, filter_placeCode hp, ← List.filter_append, List.reverse_cons,
      List.append_assoc, List.singleton_append]

theorem filter_canonicalOrder (s : List Code) : (canonicalOrder s).filter p = s.filter p := by
  rw [canonicalOrder, List.filter_reverse, filter_foldl_placeCode hp, List.append_nil, List.filter_reverse,
    List.reverse_reverse]

end Filter

section Order

theorem head?_insertMark {c y : Code} {before : List Code} (h : y ∈ (insertMark c before).head?) :
    y = c ∨ y ∈ before.head? := by
  cases before with
  | nil => exact .inl (Option.mem_some.mp h).symm
  | cons last before =>
    rw [insertMark] at h
    split at h
    · exact .inr h
    · exact .inl (Option.mem_some.mp h).symm

theorem isChain_insertMark {before : List Code} (c : Code) (h : before.IsChain fun b a => MayPrecede a b) :
    (insertMark c before).IsChain fun b a => MayPrecede a b := by
  induction before with
  | nil => exact .singleton c
  | cons last before ih =>
    obtain ⟨hhead, htail⟩ := List.isChain_cons.mp h
    rw [insertMark]
    split
    next hlt =>
      refine List.isChain_cons.mpr ⟨?_, ih htail⟩
      intro y hy
      rcases head?_insertMark hy with rfl | hy
      · exact .inr (Nat.le_of_lt hlt)
      · exact hhead y hy
    next hle => exact List.isChain_cons_cons.mpr ⟨.inr (Nat.le_of_not_lt hle), h⟩

theorem isChain_placeCode {before : List Code} (c : Code) (h : before.IsChain fun b a => MayPrecede a b) :
    (placeCode before c).IsChain fun b a => MayPrecede a b := by
  rw [placeCode]
  split
  next hstarter => exact List.isChain_cons.mpr ⟨fun _ _ => .inl hstarter, h⟩
  next => exact isChain_insertMark c h

theorem isChain_foldl_placeCode {before : List Code} (s : List Code)
    (h : before.IsChain fun b a => MayPrecede a b) :
    (s.foldl placeCode before).IsChain fun b a => MayPrecede a b := by
  induction s generalizing before with
  | nil => exact h
  | cons c s ih => exact ih (isChain_placeCode c h)

theorem inOrder_canonicalOrder (s : List Code) : InOrder (canonicalOrder s) :=
  List.isChain_reverse.mpr (isChain_foldl_placeCode s .nil)

theorem placeCode_of_mayPrecede {c : Code} {before : List Code} (h : ∀ last ∈ before.head?, MayPrecede last c) :
    placeCode before c = c :: before := by
  rw [placeCode]
  split
  next => rfl
  next hc =>
    cases before with
    | nil => rfl
    | cons last before =>
      have hle : combiningClass last ≤ combiningClass c := (h last rfl).resolve_left hc
      rw [insertMark, if_neg (Nat.not_lt.mpr hle)]

theorem foldl_placeCode_of_inOrder {s before : List Code} (h : InOrder (before.reverse ++ s)) :
    s.foldl placeCode before = s.reverse ++ before := by
  induction s generalizing before with
  | nil => rfl
  | cons c s ih =>
    have hlast : ∀ last ∈ before.head?, MayPrecede last c := by
      intro last hl
      apply (List.isChain_append.mp h).2.2 last _ c rfl
      rwa [List.getLast?_reverse]
    rw [List.foldl_cons, placeCode_of_mayPrecede hlast, ih (by simpa using h)]
    simp

theorem canonicalOrder_of_inOrder {s : List Code} (h : InOrder s) : canonicalOrder s = s := by
  have hplaced : s.foldl placeCode [] = s.reverse ++ [] := foldl_placeCode_of_inOrder h
  rw [canonicalOrder, hplaced]
  simp

end Order

section Exchange

variable {x y : Code}

theorem insertMark_comm (h : combiningClass x ≠ combiningClass y) (before : List Code) :
    insertMark x (insertMark y before) = insertMark y (insertMark x before) := by
  induction before with
  | nil =>
    simp only [insertMark]
    split <;> split
    · omega
    · rfl
    · rfl
    · omega
  | cons last before ih =>
    by_cases hx : combiningClass x < combiningClass last <;> by_cases hy : combiningClass y < combiningClass last
    · simp only [insertMark, hx, hy, if_true, ih]
    · have hxy : combiningClass x < combiningClass y := by omega
      simp only [insertMark, hx, hy, hxy, if_true, if_false]
    · have hyx : combiningClass y < combiningClass x := by omega
      simp only [insertMark, hx, hy, hyx, if_true, if_false]
    · rcases Nat.lt_or_gt_of_ne h with hlt | hlt
      · simp only [insertMark, hx, hy, hlt, Nat.lt_asymm hlt, if_true, if_false]
      · simp only [insertMark, hx, hy, hlt, Nat.lt_asymm hlt, if_true, if_false]

theorem placeCode_comm (hx : ¬IsStarter x) (hy : ¬IsStarter y) (h : combiningClass x ≠ combiningClass y)
    (before : List Code) : placeCode (placeCode before x) y = placeCode (placeCode before y) x := by
  simp only [placeCode, if_neg hx, if_neg hy]
  exact insertMark_comm h.symm before

theorem foldl_placeCode_comm {s : List Code} (hy : ¬IsStarter y)
    (hs : ∀ x ∈ s, ¬IsStarter x ∧ combiningClass x ≠ combiningClass y) (before : List Code) :
    s.foldl placeCode (placeCode before y) = placeCode (s.foldl placeCode before) y := by
  induction s generalizing before with
  | nil => rfl
  | cons x s ih =>
    obtain ⟨hx, hxy⟩ := hs x List.mem_cons_self
    rw [List.foldl_cons, List.foldl_cons, ← placeCode_comm hx hy hxy]
    exact ih (fun z hz => hs z (List.mem_cons_of_mem x hz)) _

theorem foldl_placeCode_append_comm {s t : List Code} (hs : ∀ x ∈ s, ¬IsStarter x) (ht : ∀ y ∈ t, ¬IsStarter y)
    (h : ∀ x ∈ s, ∀ y ∈ t, combiningClass x ≠ combiningClass y) (before : List Code) :
    (s ++ t).foldl placeCode before = (t ++ s).foldl placeCode before := by
  induction t generalizing before with
  | nil => rw [List.append_nil, List.nil_append]
  | cons y t ih =>
    have hy := ht y List.mem_cons_self
    have hpass := foldl_placeCode_comm hy (fun x hx => ⟨hs x hx, h x hx y List.mem_cons_self⟩) before
    have htail := ih (fun z hz => ht z (List.mem_cons_of_mem y hz))
      (fun x hx z hz => h x hx z (List.mem_cons_of_mem y hz)) (placeCode before y)
    rw [List.cons_append, List.foldl_cons, ← htail, List.foldl_append, List.foldl_append, List.foldl_cons, hpass]

theorem canonicalOrder_exchange {s t : List Code} (hs : ∀ x ∈ s, ¬IsStarter x) (ht : ∀ y ∈ t, ¬IsStarter y)
    (h : ∀ x ∈ s, ∀ y ∈ t, combiningClass x ≠ combiningClass y) (before after : List Code) :
    canonicalOrder (before ++ (s ++ t) ++ after) = canonicalOrder (before ++ (t ++ s) ++ after) := by
  have hruns := foldl_placeCode_append_comm hs ht h (before.foldl placeCode [])
  simp only [canonicalOrder, List.foldl_append] at hruns ⊢
  rw [hruns]

end Exchange

section Barrier

variable {r : Code}

theorem insertMark_append_of_isStarter (hr : IsStarter r) (c : Code) (later before : List Code) :
    insertMark c (later ++ r :: before) = insertMark c later ++ r :: before := by
  induction later with
  | nil =>
    have hlt : ¬combiningClass c < combiningClass r := by
      rw [hr]
      exact Nat.not_lt_zero _
    exact if_neg hlt
  | cons last later ih =>
    rw [List.cons_append, insertMark, insertMark]
    split
    · rw [ih, List.cons_append]
    · rfl

theorem foldl_placeCode_append_of_isStarter (hr : IsStarter r) (s later before : List Code) :
    s.foldl placeCode (later ++ r :: before) = s.foldl placeCode later ++ r :: before := by
  induction s generalizing later with
  | nil => rfl
  | cons c s ih =>
    have hplace : placeCode (later ++ r :: before) c = placeCode later c ++ r :: before := by
      rw [placeCode, placeCode]
      split
      · rfl
      · exact insertMark_append_of_isStarter hr c later before
    rw [List.foldl_cons, hplace, ih, List.foldl_cons]

theorem exists_canonicalOrder_append_mark {c : Code} (hc : ¬IsStarter c) (s : List Code) :
    ∃ earlier later, canonicalOrder s = earlier ++ later ∧ canonicalOrder (s ++ [c]) = earlier ++ c :: later ∧
      ∀ y ∈ later, combiningClass c < combiningClass y := by
  obtain ⟨later, earlier, hbefore, hinsert, hlater⟩ := exists_insertMark_eq c (s.foldl placeCode [])
  have hplace : placeCode (s.foldl placeCode []) c = later ++ c :: earlier := by rw [placeCode, if_neg hc, hinsert]
  refine ⟨earlier.reverse, later.reverse, ?_, ?_, fun y hy => hlater y (List.mem_reverse.mp hy)⟩
  · rw [canonicalOrder, hbefore, List.reverse_append]
  · rw [canonicalOrder, List.foldl_append, List.foldl_cons, List.foldl_nil, hplace]
    simp

theorem canonicalOrder_append_of_isStarter (hr : IsStarter r) (s t : List Code) :
    canonicalOrder (s ++ r :: t) = canonicalOrder s ++ r :: canonicalOrder t := by
  have hbarrier := foldl_placeCode_append_of_isStarter hr t [] (s.foldl placeCode [])
  have hplace : placeCode (s.foldl placeCode []) r = r :: s.foldl placeCode [] := if_pos hr
  rw [List.nil_append] at hbarrier
  simp only [canonicalOrder]
  rw [List.foldl_append, List.foldl_cons, hplace, hbarrier]
  simp

end Barrier

end UnicodeText
