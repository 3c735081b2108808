import UnicodeText.Proofs.Composition.Boundary
import UnicodeText.Proofs.Composition.LastMark
import UnicodeText.Proofs.Decomposition.Length

/-!
Parts of composed texts are composed. Where a composed text is cut before a starter, the parts are found
by their weight, that is by the number of codes that they decompose into. Where it is cut before a mark, its
composition is followed with the mark and without it.
-/

namespace UnicodeText

def IsComposed (k : Mode) (s : List Code) : Prop := compose (decompose k s) = s

variable {k : Mode} {u v : List Code}

section Weight

def weight (k : Mode) (s : List Code) : Nat := (expandAll k s).length

theorem weight_nil (k : Mode) : weight k [] = 0 := by
  rw [weight, expandAll_eq]
  rfl

theorem weight_append (k : Mode) (s t : List Code) : weight k (s ++ t) = weight k s + weight k t := by
  rw [weight, expandAll_append, List.length_append]
  rfl

theorem weight_cons (k : Mode) (c : Code) (s : List Code) : weight k (c :: s) = (expand k c).length + weight k s := by
  rw [weight, expandAll_eq, List.flatMap_cons, List.length_append, ← expandAll_eq]
  rfl

theorem weight_eq_length_decompose (k : Mode) (s : List Code) : weight k s = (decompose k s).length :=
  (length_canonicalOrder _).symm

theorem weight_compose_decompose (k : Mode) (s : List Code) : weight k (compose (decompose k s)) = weight k s := by
  have hequivalent : Equivalent k s (compose (decompose k s)) :=
    (equivalent_decompose k s).trans (.of_canonical k (equivalent_compose (inOrder_canonicalOrder _)))
  rw [weight_eq_length_decompose, weight_eq_length_decompose, ← decompose_eq_of_equivalent hequivalent]

theorem eq_nil_of_weight {s : List Code} (h : weight k s = 0) : s = [] := by
  cases s with
  | nil => rfl
  | cons c s =>
    have hc := List.length_pos_iff.mpr (expand_ne_nil k c)
    rw [weight_cons] at h
    omega

theorem eq_of_append_eq_append {s t u' : List Code} (h : u ++ s = u' ++ t) (hweight : weight k u = weight k u') :
    u = u' := by
  rcases List.append_eq_append_iff.mp h with ⟨a, rfl, -⟩ | ⟨a, rfl, -⟩
  · rw [weight_append] at hweight
    have ha : a = [] := eq_nil_of_weight (k := k) (by omega)
    rw [ha, List.append_nil]
  · rw [weight_append] at hweight
    have ha : a = [] := eq_nil_of_weight (k := k) (by omega)
    rw [ha, List.append_nil]

theorem weight_le_or_le_weight (k : Mode) {closed rest : List Code} {y : Code} (h : u ++ v = closed ++ y :: rest) :
    weight k u ≤ weight k closed ∨ weight k closed + (expand k y).length ≤ weight k u := by
  rcases List.append_eq_append_iff.mp h with ⟨a, rfl, -⟩ | ⟨a, rfl, ha⟩
  · left
    rw [weight_append]
    omega
  · cases a with
    | nil =>
      left
      rw [List.append_nil]
    | cons z a =>
      right
      obtain ⟨rfl, -⟩ := List.cons.inj ha
      rw [weight_append, weight_cons]
      omega

end Weight

theorem IsComposed.mayOccur {s : List Code} (h : IsComposed k s) : ∀ c ∈ s, MayOccur k c := by
  intro c hc
  rw [← h] at hc
  exact mayOccur_of_mem_compose hc

theorem IsComposed.inOrder {s : List Code} (h : IsComposed k s) : InOrder s := by
  rw [← h]
  exact inOrder_compose_decompose k s

theorem isComposed_nil (k : Mode) : IsComposed k [] := by
  rw [IsComposed, decompose_eq_self_iff.mpr ⟨by simp, .nil⟩, compose_eq]
  rfl

theorem exists_decompose_append {y : Code} (h : MayOccur k y) (hy : IsStarter y) (s : List Code) :
    ∃ r later, IsStarter r ∧ decompose k (y :: s) = r :: later ∧
      ∀ u, decompose k (u ++ y :: s) = decompose k u ++ r :: later := by
  obtain ⟨r, later, hexpand, hr⟩ := h.beginsWithStarter hy
  have happend (u : List Code) :
      decompose k (u ++ y :: s) = decompose k u ++ r :: canonicalOrder (later ++ expandAll k s) := by
    have hall : expandAll k (u ++ y :: s) = expandAll k u ++ r :: (later ++ expandAll k s) := by
      rw [expandAll_append, expandAll_eq k (y :: s), List.flatMap_cons, hexpand, ← expandAll_eq]
      rfl
    rw [decompose, hall, canonicalOrder_append_of_isStarter hr]
    rfl
  exact ⟨r, _, hr, happend [], happend⟩

namespace Segment

theorem exists_text_foldl_step (k : Mode) (closed marks s : List Code) (starter : Code) :
    ∃ x rest, (s.foldl step (started closed starter marks)).text = closed ++ x :: rest ∧
      (expand k starter).length ≤ (expand k x).length := by
  induction s generalizing closed starter marks with
  | nil => exact ⟨starter, marks, rfl, Nat.le_refl _⟩
  | cons c s ih =>
    rw [List.foldl_cons]
    cases hx : (started closed starter marks).composite? c with
    | some x =>
      obtain ⟨_, _, _, ⟨⟩, -, hpair, hstep⟩ := exists_of_composite?_eq_some hx
      obtain ⟨y, rest, htext, hle⟩ := ih closed marks x
      rw [expand_composePair k hpair, List.length_append] at hle
      rw [hstep]
      exact ⟨y, rest, htext, by omega⟩
    | none =>
      rw [step_of_composite?_eq_none hx]
      by_cases hc : IsStarter c
      · obtain ⟨y, rest, htext, -⟩ := ih (closed ++ starter :: marks) [] c
        rw [push_of_isStarter hc]
        exact ⟨starter, marks ++ y :: rest, by rw [text, htext]; simp, Nat.le_refl _⟩
      · have hpush : (started closed starter marks).push c = started closed starter (marks ++ [c]) := if_neg hc
        rw [hpush]
        exact ih closed (marks ++ [c]) starter

end Segment

theorem composite?_eq_none_of_isComposed {r : Code} {later : List Code} (h : IsComposed k (u ++ v))
    (hdecompose : decompose k (u ++ v) = decompose k u ++ r :: later) (hr : IsStarter r) :
    ((decompose k u).foldl Segment.step (.leading [])).composite? r = none := by
  have hcomposed := composed_decompose k u
  have hweight := weight_compose_decompose k u
  have hatomic : IsAtomic k r := isAtomic_of_mem_decompose (s := u ++ v) (by simp [hdecompose])
  have htext : u ++ v = (later.foldl Segment.step
      (((decompose k u).foldl Segment.step (.leading [])).step r)).text := by
    rw [← h, hdecompose, compose_eq, List.foldl_append, List.foldl_cons]
  rw [compose_eq] at hweight
  generalize (decompose k u).foldl Segment.step (.leading []) = p at hcomposed hweight htext ⊢
  apply Option.eq_none_iff_forall_not_mem.mpr
  intro x hx
  obtain ⟨closed, starter, marks, rfl, hblocked, hpair, hstep⟩ := Segment.exists_of_composite?_eq_some hx
  obtain rfl : marks = [] := by simpa [hr] using hblocked
  -- the composite would outweigh the starter, and so its place is neither in `u` nor behind it
  obtain ⟨y, rest, hy, hle⟩ := Segment.exists_text_foldl_step k closed [] later x
  have hstarter := List.length_pos_iff.mpr (expand_ne_nil k starter)
  rw [hstep, hy] at htext
  rw [expand_composePair k hpair, List.length_append, expand_of_isAtomic hatomic, List.length_singleton] at hle
  rw [Segment.text, weight_append, weight_cons, weight_nil] at hweight
  rcases weight_le_or_le_weight k htext with hcut | hcut
  · omega
  · omega

theorem IsComposed.split (h : IsComposed k (u ++ v)) (hv : ∀ y ∈ v.head?, IsStarter y) :
    IsComposed k u ∧ IsComposed k v := by
  cases v with
  | nil =>
    rw [List.append_nil] at h
    exact ⟨h, isComposed_nil k⟩
  | cons y v =>
    have hy : MayOccur k y := h.mayOccur y (by simp)
    obtain ⟨r, later, hr, hlater, happend⟩ := exists_decompose_append hy (hv y rfl) v
    have hnone := composite?_eq_none_of_isComposed h (happend u) hr
    have hcompose : compose (decompose k u) ++ compose (decompose k (y :: v)) = u ++ y :: v := by
      rw [hlater, ← compose_append_of_composite?_eq_none hr hnone, ← happend]
      exact h
    have hleft : compose (decompose k u) = u := eq_of_append_eq_append hcompose (weight_compose_decompose k u)
    rw [hleft] at hcompose
    exact ⟨hleft, List.append_cancel_left hcompose⟩

theorem IsComposed.of_append_mark {x : Code} (h : IsComposed k (u ++ [x])) (hx : ¬IsStarter x) : IsComposed k u := by
  have hatomic : IsAtomic k x := (h.mayOccur x (by simp)).isAtomic hx
  obtain ⟨earlier, later, hu, hux, hlater⟩ := exists_canonicalOrder_append_mark hx (expandAll k u)
  have hdecompose : decompose k (u ++ [x]) = earlier ++ x :: later := by
    rw [decompose, expandAll_append, expandAll_of_isAtomic (s := [x]) (by simpa using hatomic), hux]
  have horder : InOrder (earlier ++ x :: later) := hdecompose ▸ inOrder_canonicalOrder _
  obtain ⟨hcomposed, haccepts⟩ := (Segment.composed_leading_nil k).foldl_step horder
    (fun c hc => isAtomic_of_mem_decompose (s := u ++ [x]) (by rw [hdecompose]; exact List.mem_append_left _ hc))
    fun c _ => accepts_leading_nil c
  have htext := h
  rw [IsComposed, hdecompose, compose_eq, List.foldl_append, List.foldl_cons] at htext
  have hnone := Segment.composite?_eq_none_of_getLast? hx hcomposed.marksInOrder hlater htext
  rw [Segment.step_of_composite?_eq_none hnone] at htext
  have hle := (haccepts x rfl).resolve_left hx
  rw [IsComposed, decompose, hu, compose_eq, List.foldl_append]
  exact Segment.text_foldl_step_of_push_mark hx hle hlater htext

theorem IsComposed.of_append_marks {m : List Code} (h : IsComposed k (u ++ m)) (hm : ∀ c ∈ m, ¬IsStarter c) :
    IsComposed k u := by
  induction m using List.reverseRecOn with
  | nil => rwa [List.append_nil] at h
  | append_singleton m x ih =>
    rw [← List.append_assoc] at h
    exact ih (h.of_append_mark (hm x (by simp))) fun c hc => hm c (List.mem_append_left _ hc)

namespace Segment

theorem foldl_step_leading (marks : List Code) {s : List Code} (hs : ∀ c ∈ s, ¬IsStarter c) :
    s.foldl step (leading marks) = leading (marks ++ s) := by
  induction s generalizing marks with
  | nil => rw [List.foldl_nil, List.append_nil]
  | cons c s ih =>
    have hstep : (leading marks).step c = leading (marks ++ [c]) := if_neg (hs c List.mem_cons_self)
    rw [List.foldl_cons, hstep, ih _ fun y hy => hs y (List.mem_cons_of_mem c hy), List.append_assoc,
      List.singleton_append]

end Segment

theorem IsComposed.marks_append {m w : List Code} (h : IsComposed k w) (hw : ∀ y ∈ w.head?, IsStarter y)
    (hm : ∀ c ∈ m, ¬IsStarter c) (hatomic : ∀ c ∈ m, IsAtomic k c) (horder : InOrder m) : IsComposed k (m ++ w) := by
  have hdecompose : decompose k m = m := decompose_eq_self_iff.mpr ⟨hatomic, horder⟩
  have hrun := Segment.foldl_step_leading [] hm
  have hcompose : compose m = m := by
    rw [compose_eq, hrun]
    rfl
  cases w with
  | nil => rw [List.append_nil, IsComposed, hdecompose, hcompose]
  | cons y w =>
    obtain ⟨r, later, hr, hlater, happend⟩ :=
      exists_decompose_append (h.mayOccur y List.mem_cons_self) (hw y rfl) w
    have hnone : (m.foldl Segment.step (.leading [])).composite? r = none := by
      rw [hrun]
      rfl
    rw [IsComposed, happend, hdecompose, compose_append_of_composite?_eq_none hr hnone, hcompose, ← hlater, h]

theorem IsComposed.of_append (h : IsComposed k (u ++ v)) : IsComposed k u ∧ IsComposed k v := by
  -- the second part is some marks and a text that begins with a starter
  obtain ⟨m, w, rfl, hm, hw⟩ : ∃ m w, v = m ++ w ∧ (∀ c ∈ m, ¬IsStarter c) ∧ ∀ y ∈ w.head?, IsStarter y := by
    refine ⟨v.takeWhile fun c => !decide (IsStarter c), v.dropWhile fun c => !decide (IsStarter c),
      List.takeWhile_append_dropWhile.symm, ?_, ?_⟩
    · intro c hc
      simpa using List.all_eq_true.mp List.all_takeWhile c hc
    · intro y hy
      simpa [Option.mem_def.mp hy] using List.head?_dropWhile_not (fun c => !decide (IsStarter c)) v
  have hmay := h.mayOccur
  obtain ⟨-, horder, -⟩ := List.isChain_append.mp h.inOrder
  rw [← List.append_assoc] at h
  obtain ⟨hleft, hright⟩ := h.split hw
  refine ⟨hleft.of_append_marks hm, hright.marks_append hw hm ?_ (List.isChain_append.mp horder).1⟩
  intro c hc
  exact (hmay c (by simp [hc])).isAtomic (hm c hc)

end UnicodeText
