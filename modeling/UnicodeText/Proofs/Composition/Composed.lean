import UnicodeText.Proofs.Equivalence.Composition

namespace UnicodeText

def BeginsWithStarter (k : Mode) (c : Code) : Prop := ∃ r later, expand k c = r :: later ∧ IsStarter r

namespace BeginsWithStarter

variable {k : Mode} {c : Code}

theorem isStarter (h : BeginsWithStarter k c) : IsStarter c := by
  obtain ⟨r, later, hexpand, hr⟩ := h
  apply Decidable.byContradiction
  intro hc
  have hclass := combiningClass_of_mem_expand (k := k) (x := r) hc (by simp [hexpand])
  rw [IsStarter, ← hclass] at hc
  exact hc hr

theorem of_isAtomic (hatomic : IsAtomic k c) (hc : IsStarter c) : BeginsWithStarter k c :=
  ⟨c, [], expand_of_isAtomic hatomic, hc⟩

theorem composePair {starter x : Code} (h : BeginsWithStarter k starter)
    (hx : UnicodeText.composePair starter c = some x) : BeginsWithStarter k x := by
  obtain ⟨r, later, hexpand, hr⟩ := h
  refine ⟨r, later ++ expand k c, ?_, hr⟩
  rw [expand_composePair k hx, hexpand, List.cons_append]

end BeginsWithStarter

def MayOccur (k : Mode) (c : Code) : Prop := IsAtomic k c ∨ BeginsWithStarter k c

namespace MayOccur

variable {k : Mode} {c : Code}

theorem isAtomic (h : MayOccur k c) (hc : ¬IsStarter c) : IsAtomic k c :=
  h.resolve_right fun hbegins => hc hbegins.isStarter

theorem beginsWithStarter (h : MayOccur k c) (hc : IsStarter c) : BeginsWithStarter k c :=
  h.elim (fun hatomic => .of_isAtomic hatomic hc) id

end MayOccur

namespace Segment

def starter? : Segment → Option Code
  | leading _ => none
  | started _ starter _ => some starter

theorem mem_getLast?_text {p : Segment} {y : Code} (h : y ∈ p.text.getLast?) : y ∈ p.starter? ∨ y ∈ p.marks := by
  cases p with
  | leading marks => exact .inr (List.mem_of_getLast? h)
  | started closed starter marks =>
    rw [text, List.getLast?_append, List.getLast?_cons, Option.some_or] at h
    obtain rfl : marks.getLast?.getD starter = y := Option.some.inj h
    cases hlast : marks.getLast? with
    | none => exact .inl rfl
    | some m => exact .inr (List.mem_of_getLast? hlast)

/-- The invariant of the composition of a decomposed text. -/
structure Composed (k : Mode) (p : Segment) : Prop where
  marksInOrder : p.MarksInOrder
  starter : ∀ r ∈ p.starter?, BeginsWithStarter k r
  mayOccur : ∀ c ∈ p.text, MayOccur k c
  inOrder : InOrder p.text

theorem composed_leading_nil (k : Mode) : (leading []).Composed k :=
  ⟨⟨by simp [marks], .nil⟩, by simp [starter?], by simp [text], .nil⟩

variable {k : Mode} {p : Segment} {c : Code}

theorem starter?_push (p : Segment) (c : Code) :
    (p.push c).starter? = if IsStarter c then some c else p.starter? := by
  cases p with
  | leading marks =>
    rw [push]
    split <;> rfl
  | started closed starter marks =>
    rw [push]
    split <;> rfl

theorem Composed.push (h : p.Composed k) (hc : p.Accepts c) (hatomic : IsAtomic k c) : (p.push c).Composed k := by
  refine ⟨(marksInOrder_push h.marksInOrder hc).1, ?_, ?_, ?_⟩
  · intro r hr
    rw [starter?_push] at hr
    split at hr
    next hstarter =>
      obtain rfl : c = r := Option.some.inj hr
      exact .of_isAtomic hatomic hstarter
    next => exact h.starter r hr
  · intro y hy
    rw [text_push, List.mem_append, List.mem_singleton] at hy
    rcases hy with hy | rfl
    · exact h.mayOccur y hy
    · exact .inl hatomic
  · rw [text_push]
    refine List.isChain_append.mpr ⟨h.inOrder, .singleton c, ?_⟩
    intro last hlast y hy
    obtain rfl : c = y := Option.some.inj hy
    rcases mem_getLast?_text hlast with hstarter | hmark
    · have hclass : combiningClass last = 0 := (h.starter last hstarter).isStarter
      exact .inr (hclass ▸ Nat.zero_le _)
    · exact hc.imp id fun hle => hle last hmark

theorem Composed.replace {closed marks : List Code} {starter x : Code} (h : (started closed starter marks).Composed k)
    (hx : composePair starter c = some x) : (started closed x marks).Composed k := by
  have hbegins : BeginsWithStarter k x := (h.starter starter rfl).composePair hx
  obtain ⟨hclosed, htail, -⟩ := List.isChain_append.mp h.inOrder
  refine ⟨⟨h.marksInOrder.not_isStarter, h.marksInOrder.pairwise⟩, ?_, ?_, ?_⟩
  · intro r hr
    obtain rfl : x = r := Option.some.inj hr
    exact hbegins
  · intro y hy
    have hold := h.mayOccur y
    simp only [text, List.mem_append, List.mem_cons] at hy hold
    rcases hy with hy | rfl | hy
    · exact hold (.inl hy)
    · exact .inr hbegins
    · exact hold (.inr (.inr hy))
  · -- a starter may stand behind any code, and any code behind it
    have hclass : combiningClass x = 0 := hbegins.isStarter
    refine List.isChain_append.mpr ⟨hclosed, ?_, ?_⟩
    · exact List.isChain_cons.mpr ⟨fun y _ => .inr (hclass ▸ Nat.zero_le _), (List.isChain_cons.mp htail).2⟩
    · intro last _ y hy
      obtain rfl : x = y := Option.some.inj hy
      exact .inl hclass

theorem Composed.step (h : p.Composed k) (hc : p.Accepts c) (hatomic : IsAtomic k c) : (p.step c).Composed k := by
  cases hx : p.composite? c with
  | none =>
    rw [step_of_composite?_eq_none hx]
    exact h.push hc hatomic
  | some x =>
    obtain ⟨closed, starter, marks, rfl, -, hpair, hstep⟩ := exists_of_composite?_eq_some hx
    rw [hstep]
    exact h.replace hpair

theorem Composed.foldl_step {read unread : List Code} (h : p.Composed k) (horder : InOrder (read ++ unread))
    (hatomic : ∀ c ∈ read, IsAtomic k c) (hhead : ∀ c ∈ (read ++ unread).head?, p.Accepts c) :
    (read.foldl Segment.step p).Composed k ∧ ∀ c ∈ unread.head?, (read.foldl Segment.step p).Accepts c := by
  induction read generalizing p with
  | nil => exact ⟨h, hhead⟩
  | cons c read ih =>
    have hc := hhead c rfl
    exact ih (h.step hc (hatomic c List.mem_cons_self)) (List.isChain_cons.mp horder).2
      (fun y hy => hatomic y (List.mem_cons_of_mem c hy)) (accepts_of_inOrder h.marksInOrder hc horder)

end Segment

section Decomposed

variable {k : Mode}

theorem accepts_leading_nil (c : Code) : (Segment.leading []).Accepts c := .inr (by simp [Segment.marks])

theorem composed_decompose (k : Mode) (s : List Code) :
    ((decompose k s).foldl Segment.step (.leading [])).Composed k := by
  have horder : InOrder (decompose k s ++ []) := by
    rw [List.append_nil]
    exact inOrder_canonicalOrder _
  exact ((Segment.composed_leading_nil k).foldl_step horder (fun c hc => isAtomic_of_mem_decompose hc)
    fun c _ => accepts_leading_nil c).1

theorem mayOccur_of_mem_compose {s : List Code} {c : Code} (h : c ∈ compose (decompose k s)) : MayOccur k c := by
  rw [compose_eq] at h
  exact (composed_decompose k s).mayOccur c h

theorem inOrder_compose_decompose (k : Mode) (s : List Code) : InOrder (compose (decompose k s)) := by
  rw [compose_eq]
  exact (composed_decompose k s).inOrder

end Decomposed

end UnicodeText
