import UnicodeText.Proofs.Composition.Composed

/-!
Canonical composition as it is stated for texts: every code looks back for the last starter and composes with
it if nothing between them blocks it. The compaction of a text in canonical order gives the same, though it
keeps no more than the place of the starter and the class of the last mark, and it never writes over a code
that is still to be read.
-/

namespace UnicodeText

def lastStarter? : List Code → Option (List Code × Code × List Code)
  | [] => none
  | c :: s =>
    match lastStarter? s with
    | some (before, starter, behind) => some (c :: before, starter, behind)
    | none => if IsStarter c then some ([], c, s) else none

abbrev Blocks (y c : Code) : Prop := IsStarter y ∨ combiningClass c ≤ combiningClass y

def composeNext (before : List Code) (c : Code) : List Code :=
  match lastStarter? before with
  | none => before ++ [c]
  | some (front, starter, between) =>
    if ∃ y ∈ between, Blocks y c then before ++ [c]
    else
      match composePair starter c with
      | some composite => front ++ composite :: between
      | none => before ++ [c]

def referenceCompose (s : List Code) : List Code := s.foldl composeNext []

theorem lastStarter?_eq_none {s : List Code} (h : ∀ c ∈ s, ¬IsStarter c) : lastStarter? s = none := by
  induction s with
  | nil => rfl
  | cons c s ih =>
    rw [lastStarter?, ih fun x hx => h x (List.mem_cons_of_mem c hx)]
    exact if_neg (h c List.mem_cons_self)

theorem lastStarter?_append {before behind : List Code} {starter : Code} (hstarter : IsStarter starter)
    (hbehind : ∀ m ∈ behind, ¬IsStarter m) :
    lastStarter? (before ++ starter :: behind) = some (before, starter, behind) := by
  induction before with
  | nil =>
    rw [List.nil_append, lastStarter?, lastStarter?_eq_none hbehind]
    exact if_pos hstarter
  | cons c before ih => rw [List.cons_append, lastStarter?, ih]

namespace Segment

variable {p : Segment} {c : Code} {s : List Code}

/-- The segment is divided at its last starter, and the marks behind it stand in the order of their classes. -/
structure IsOrdered (p : Segment) : Prop where
  marksInOrder : p.MarksInOrder
  isStarter : ∀ r ∈ p.starter?, IsStarter r

theorem isOrdered_leading_nil : (leading []).IsOrdered := ⟨⟨by simp [marks], .nil⟩, by simp [starter?]⟩

theorem IsOrdered.step (h : p.IsOrdered) (hc : p.Accepts c) : (p.step c).IsOrdered := by
  refine ⟨(equivalent_step h.marksInOrder hc).2.1, ?_⟩
  intro r hr
  cases hx : p.composite? c with
  | none =>
    rw [step_of_composite?_eq_none hx, starter?_push] at hr
    split at hr
    next hstarter =>
      obtain rfl : c = r := Option.some.inj hr
      exact hstarter
    next => exact h.isStarter r hr
  | some x =>
    obtain ⟨closed, starter, marks, rfl, -, hpair, hstep⟩ := exists_of_composite?_eq_some hx
    rw [hstep] at hr
    obtain rfl : x = r := Option.some.inj hr
    exact isStarter_of_composePair hpair

theorem lastStarter?_started {closed marks : List Code} {starter : Code} (h : (started closed starter marks).IsOrdered) :
    lastStarter? (started closed starter marks).text = some (closed, starter, marks) :=
  lastStarter?_append (h.isStarter starter rfl) h.marksInOrder.not_isStarter

theorem lastStarter?_leading {marks : List Code} (h : (leading marks).IsOrdered) :
    lastStarter? (leading marks).text = none := lastStarter?_eq_none h.marksInOrder.not_isStarter

theorem blocked_iff (hmarks : p.MarksInOrder) :
    p.marks.getLast?.any (combiningClass c ≤ combiningClass ·) = true ↔ ∃ y ∈ p.marks, Blocks y c := by
  constructor
  · intro h
    obtain ⟨y, hy, hle⟩ := (Option.any_eq_true _ _).mp h
    exact ⟨y, List.mem_of_getLast? hy, .inr (of_decide_eq_true hle)⟩
  · rintro ⟨y, hy, hblocks⟩
    apply Decidable.byContradiction
    intro h
    have hlt := lt_of_not_blocked hmarks.pairwise h y hy
    have hle := hblocks.resolve_left (hmarks.not_isStarter y hy)
    omega

theorem IsOrdered.composeNext_text (h : p.IsOrdered) (c : Code) : composeNext p.text c = (p.step c).text := by
  cases p with
  | leading marks =>
    have hnone : (leading marks).composite? c = none := rfl
    rw [step_of_composite?_eq_none hnone, text_push, composeNext, lastStarter?_leading h]
  | started closed starter marks =>
    have hcomposite : (started closed starter marks).composite? c =
        if ∃ y ∈ marks, Blocks y c then none else composePair starter c := by
      rw [composite?]
      exact if_congr (blocked_iff h.marksInOrder) rfl rfl
    rw [composeNext, lastStarter?_started h, Segment.step, hcomposite]
    dsimp only
    split
    · exact (text_push _ c).symm
    · cases composePair starter c with
      | none => exact (text_push _ c).symm
      | some composite => rfl

theorem IsOrdered.foldl_composeNext_text (h : p.IsOrdered) (hs : InOrder s) (hhead : ∀ c ∈ s.head?, p.Accepts c) :
    s.foldl composeNext p.text = (s.foldl Segment.step p).text := by
  induction s generalizing p with
  | nil => rfl
  | cons c s ih =>
    -- that the segment stays in order is what makes the last mark speak for all that stand before it
    have hc := hhead c rfl
    rw [List.foldl_cons, List.foldl_cons, h.composeNext_text]
    exact ih (h.step hc) (List.isChain_cons.mp hs).2 (accepts_of_inOrder h.marksInOrder hc hs)

theorem starterPosition_lt (p : Segment) : ∀ i ∈ p.starterPosition, i < p.text.length := by
  intro i hi
  cases p with
  | leading marks => simp [starterPosition] at hi
  | started closed starter marks =>
    obtain rfl : closed.length = i := Option.some.inj hi
    simp [text]

end Segment

theorem compose_eq_referenceCompose {s : List Code} (h : InOrder s) : compose s = referenceCompose s := by
  rw [compose_eq, referenceCompose]
  exact (Segment.isOrdered_leading_nil.foldl_composeNext_text h fun c _ => accepts_leading_nil c).symm

namespace Compaction

/-- What holds when `count` codes of the text `s` have been read: they have not been outrun by what is written,
the starter is among the codes that are written, and the other codes of the text still stand in their places. -/
structure Keeps (t : Compaction) (s : List Code) (count : Nat) : Prop where
  write_le : t.write ≤ count
  starter_lt : ∀ position ∈ t.starter, position < t.write
  unread : t.buffer.toList.drop count = s.drop count

theorem keeps_after (s : List Code) {count : Nat} (h : count ≤ s.length) : (after s count).Keeps s count := by
  have hholds := holds_after s (s.take count) (s.drop count) (List.take_append_drop count s).symm
  rw [List.length_take, Nat.min_eq_left h] at hholds
  obtain ⟨stale, hbuffer, hlength⟩ := hholds.buffer
  refine ⟨?_, ?_, ?_⟩
  · rw [hholds.write]
    omega
  · rw [hholds.starter, hholds.write]
    exact Segment.starterPosition_lt _
  · rw [hbuffer, List.drop_left']
    rw [List.length_append, hlength]

end Compaction

theorem compose_implements_reference :
    (∀ s : List Code, InOrder s → compose s = referenceCompose s) ∧
    ∀ (s : List Code) (count : Nat), count ≤ s.length → (Compaction.after s count).Keeps s count :=
  ⟨fun _ h => compose_eq_referenceCompose h, fun s _ h => Compaction.keeps_after s h⟩

theorem compose_implements_reference_blocked :
    compose [0x65, 0x316, 0x301, 0x301] = referenceCompose [0x65, 0x316, 0x301, 0x301] ∧
    (Compaction.after [0x65, 0x316, 0x301, 0x301] 3).Keeps [0x65, 0x316, 0x301, 0x301] 3 := by
  have hclasses : [0x65, 0x301, 0x316].map combiningClass = [0, 230, 220] := by decide +kernel
  simp only [List.map_cons, List.map_nil, List.cons.injEq, and_true] at hclasses
  obtain ⟨hletter, hacute, hgrave⟩ := hclasses
  refine ⟨compose_implements_reference.1 _ ?_, compose_implements_reference.2 _ 3 (by decide)⟩
  simp [InOrder, MayPrecede, IsStarter, hletter, hacute, hgrave]

end UnicodeText
