import UnicodeText.Proofs.Composition.Pair
import UnicodeText.Proofs.Composition.Segment
import UnicodeText.Proofs.Equivalence.Basic

namespace UnicodeText

theorem equivalent_composePair {first second c : Code} (h : composePair first second = some c) :
    Equivalent .canonical [first, second] [c] := by
  have hexpand : expandAll .canonical [first, second] = expandAll .canonical [c] := by
    simp [expandAll_eq, expand_composePair .canonical h]
  have hparts := equivalent_expandAll .canonical [first, second]
  rw [hexpand] at hparts
  exact hparts.trans (equivalent_expandAll .canonical [c]).symm

namespace Segment

structure MarksInOrder (p : Segment) : Prop where
  not_isStarter : ∀ m ∈ p.marks, ¬IsStarter m
  pairwise : p.marks.Pairwise fun a b => combiningClass a ≤ combiningClass b

def Accepts (p : Segment) (c : Code) : Prop := IsStarter c ∨ ∀ m ∈ p.marks, combiningClass m ≤ combiningClass c

theorem lt_of_not_blocked {marks : List Code} {c : Code}
    (hmarks : marks.Pairwise fun a b => combiningClass a ≤ combiningClass b)
    (h : ¬marks.getLast?.any (combiningClass c ≤ combiningClass ·) = true) :
    ∀ m ∈ marks, combiningClass m < combiningClass c := by
  rcases marks.eq_nil_or_concat with rfl | ⟨init, last, rfl⟩
  · simp
  · rw [List.concat_eq_append] at hmarks h ⊢
    have hlast : combiningClass last < combiningClass c := by simpa using h
    intro m hm
    rcases List.mem_append.mp hm with hinit | hm
    · have hle := (List.pairwise_append.mp hmarks).2.2 m hinit last List.mem_cons_self
      exact Nat.lt_of_le_of_lt hle hlast
    · rwa [List.mem_singleton.mp hm]

theorem equivalent_replace {closed marks : List Code} {starter c x : Code}
    (hmarks : MarksInOrder (.started closed starter marks))
    (hlt : ∀ m ∈ marks, combiningClass m < combiningClass c) (h : composePair starter c = some x) :
    Equivalent .canonical (closed ++ starter :: marks ++ [c]) (closed ++ x :: marks) := by
  -- the code passes the marks in front of it, and then it composes with the starter
  have hpass : Equivalent .canonical (marks ++ [c]) (c :: marks) := by
    by_cases hc : IsStarter c
    · have hnil : marks = [] := by
        refine List.eq_nil_iff_forall_not_mem.mpr fun m hm => ?_
        have hm' := hlt m hm
        rw [IsStarter] at hc
        omega
      rw [hnil]
      exact .refl [c]
    · exact .pass hc fun m hm => ⟨hmarks.not_isStarter m hm, Nat.ne_of_lt (hlt m hm)⟩
  have hmove := Equivalent.within (closed ++ [starter]) [] hpass
  have hcompose := Equivalent.within closed marks (equivalent_composePair h)
  simp only [List.append_assoc, List.cons_append, List.nil_append, List.append_nil] at hmove hcompose ⊢
  exact hmove.trans hcompose

theorem marksInOrder_push {p : Segment} {c : Code} (h : p.MarksInOrder) (hc : p.Accepts c) :
    (p.push c).MarksInOrder ∧ ∀ m ∈ (p.push c).marks, combiningClass m ≤ combiningClass c := by
  have hmarks := marks_push p c
  by_cases hstarter : IsStarter c
  · rw [if_pos hstarter] at hmarks
    refine ⟨⟨?_, ?_⟩, ?_⟩ <;> simp [hmarks]
  · rw [if_neg hstarter] at hmarks
    have hle := hc.resolve_left hstarter
    refine ⟨⟨?_, ?_⟩, ?_⟩
    · intro m hm
      rw [hmarks, List.mem_append, List.mem_singleton] at hm
      rcases hm with hm | rfl
      · exact h.not_isStarter m hm
      · exact hstarter
    · rw [hmarks, List.pairwise_append]
      refine ⟨h.pairwise, List.pairwise_singleton _ _, ?_⟩
      intro m hm y hy
      rw [List.mem_singleton.mp hy]
      exact hle m hm
    · intro m hm
      rw [hmarks, List.mem_append, List.mem_singleton] at hm
      rcases hm with hm | rfl
      · exact hle m hm
      · exact Nat.le_refl _

theorem equivalent_step {p : Segment} {c : Code} (h : p.MarksInOrder) (hc : p.Accepts c) :
    Equivalent .canonical (p.text ++ [c]) (p.step c).text ∧ (p.step c).MarksInOrder ∧
      ∀ m ∈ (p.step c).marks, combiningClass m ≤ combiningClass c := by
  cases hx : p.composite? c with
  | some x =>
    obtain ⟨closed, starter, marks, rfl, hblocked, hpair, hstep⟩ := exists_of_composite?_eq_some hx
    have hlt := lt_of_not_blocked h.pairwise hblocked
    rw [hstep]
    exact ⟨equivalent_replace h hlt hpair, ⟨h.not_isStarter, h.pairwise⟩, fun m hm => Nat.le_of_lt (hlt m hm)⟩
  | none =>
    rw [step_of_composite?_eq_none hx, text_push]
    exact ⟨.refl _, marksInOrder_push h hc⟩

theorem accepts_of_inOrder {p : Segment} {c : Code} {s : List Code} (h : p.MarksInOrder) (hc : p.Accepts c)
    (hs : InOrder (c :: s)) : ∀ y ∈ s.head?, (p.step c).Accepts y := by
  obtain ⟨-, -, hle⟩ := equivalent_step h hc
  intro y hy
  rcases (List.isChain_cons.mp hs).1 y hy with hstarter | hcy
  · exact .inl hstarter
  · exact .inr fun m hm => Nat.le_trans (hle m hm) hcy

theorem equivalent_foldl_step {p : Segment} {s : List Code} (h : p.MarksInOrder) (hs : InOrder s)
    (hhead : ∀ c ∈ s.head?, p.Accepts c) : Equivalent .canonical (p.text ++ s) (s.foldl step p).text := by
  induction s generalizing p with
  | nil =>
    rw [List.append_nil]
    exact .refl _
  | cons c s ih =>
    obtain ⟨hstep, hmarks, -⟩ := equivalent_step h (hhead c rfl)
    have hc := hstep.append (.refl s)
    rw [List.append_assoc, List.singleton_append] at hc
    exact hc.trans (ih hmarks (List.isChain_cons.mp hs).2 (accepts_of_inOrder h (hhead c rfl) hs))

end Segment

theorem equivalent_compose {s : List Code} (h : InOrder s) : Equivalent .canonical s (compose s) := by
  rw [compose_eq]
  apply Segment.equivalent_foldl_step (p := .leading []) ⟨by simp [Segment.marks], .nil⟩ h
  intro c _
  exact .inr (by simp [Segment.marks])

theorem decompose_canonical_compose (k : Mode) (s : List Code) :
    decompose .canonical (compose (decompose k s)) = decompose k s := by
  have hcompose := equivalent_compose (inOrder_canonicalOrder (expandAll k s))
  exact (decompose_eq_of_equivalent hcompose).symm.trans (decompose_canonical_decompose k s)

end UnicodeText
