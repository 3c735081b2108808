import UnicodeText.Form.Bytes
import UnicodeText.Proofs.Composition.Chain
import UnicodeText.Proofs.Composition.LastMark
import UnicodeText.Proofs.Composition.Reference

/-!
Nothing is left to compose. A mark that was not composed is not tried again when the starter before it is
replaced by a composite, and it need not be: the composite was made with a mark of higher class, and composes
with none of lower class.
-/

namespace UnicodeText

/-- No starter composes with a code behind it if all that stands between them are marks of lower class. -/
def IsSettled (s : List Code) : Prop :=
  ∀ (before between after : List Code) (x y : Code), s = before ++ x :: (between ++ y :: after) → IsStarter x →
    (∀ m ∈ between, ¬IsStarter m ∧ combiningClass m < combiningClass y) → composePair x y = none

theorem isSettled_nil : IsSettled [] := by
  intro before between after x y h
  simp at h

theorem isSettled_replace {closed marks : List Code} {starter c composite : Code}
    (h : IsSettled (closed ++ starter :: marks)) (hmarks : ∀ m ∈ marks, ¬IsStarter m ∧ combiningClass m < combiningClass c)
    (hpair : composePair starter c = some composite) : IsSettled (closed ++ composite :: marks) := by
  have hmark : ∀ y ∈ marks, composePair composite y = none := by
    intro y hy
    apply Option.eq_none_iff_forall_not_mem.mpr
    intro x hx
    have hle := combiningClass_le_of_composePair hpair hx (hmarks y hy).1
    have hlt := (hmarks y hy).2
    omega
  intro before between after x y htext hx hbetween
  rcases List.append_eq_append_iff.mp htext with ⟨front, rfl, hbehind⟩ | ⟨rest, rfl, hbehind⟩
  · rcases List.cons_eq_append_iff.mp hbehind with ⟨rfl, hcons⟩ | ⟨front, rfl, rfl⟩
    · obtain ⟨rfl, rfl⟩ := List.cons.inj hcons
      exact hmark y (by simp)
    · exact absurd hx (hmarks x (by simp)).1
  · rcases List.cons_eq_append_iff.mp hbehind with ⟨rfl, hcons⟩ | ⟨rest, rfl, hrest⟩
    · obtain ⟨rfl, rfl⟩ := List.cons.inj hcons
      exact hmark y (by simp)
    -- the starter stands before the composite, and the other code behind it, in its place or before it
    · rcases List.append_eq_append_iff.mp hrest with ⟨front, rfl, htail⟩ | ⟨front, rfl, htail⟩
      · rcases List.cons_eq_append_iff.mp htail with ⟨rfl, hcons⟩ | ⟨front, rfl, rfl⟩
        · obtain ⟨rfl, rfl⟩ := List.cons.inj hcons
          exact composePair_composite_eq_none hpair x
        · exact h before between (front ++ starter :: marks) x y (by simp) hx hbetween
      · rcases List.cons_eq_append_iff.mp htail with ⟨rfl, hcons⟩ | ⟨front, rfl, rfl⟩
        · obtain ⟨rfl, rfl⟩ := List.cons.inj hcons
          exact composePair_composite_eq_none hpair x
        · exact absurd (isStarter_of_composePair hpair) (hbetween composite (by simp)).1

namespace Segment

variable {p : Segment} {c : Code} {s : List Code}

theorem IsOrdered.isSettled_push (h : p.IsOrdered) (hsettled : IsSettled p.text) (hnone : p.composite? c = none) :
    IsSettled (p.push c).text := by
  intro before between after x y htext hx hbetween
  rw [text_push] at htext
  rcases after.eq_nil_or_concat with rfl | ⟨after, z, rfl⟩
  · have hsplit : p.text ++ [c] = (before ++ x :: between) ++ [y] := by simpa using htext
    obtain ⟨hbefore, hlast⟩ := List.append_inj' hsplit rfl
    obtain rfl : c = y := List.head_eq_of_cons_eq hlast
    have hstarter : lastStarter? (before ++ x :: between) = some (before, x, between) :=
      lastStarter?_append hx fun m hm => (hbetween m hm).1
    rw [← hbefore] at hstarter
    cases p with
    | leading marks => simp [lastStarter?_leading h] at hstarter
    | started closed starter marks =>
      rw [lastStarter?_started h] at hstarter
      obtain ⟨rfl, rfl, rfl⟩ : closed = before ∧ starter = x ∧ marks = between := by simpa using hstarter
      rwa [composite?, if_neg (not_blocked fun m hm => (hbetween m hm).2)] at hnone
  · have hsplit : p.text ++ [c] = (before ++ x :: (between ++ y :: after)) ++ [z] := by simpa using htext
    exact hsettled before between after x y (List.append_inj' hsplit rfl).1 hx hbetween

theorem IsOrdered.isSettled_step (h : p.IsOrdered) (hsettled : IsSettled p.text) (c : Code) :
    IsSettled (p.step c).text := by
  cases hx : p.composite? c with
  | none =>
    rw [step_of_composite?_eq_none hx]
    exact h.isSettled_push hsettled hx
  | some x =>
    obtain ⟨closed, starter, marks, rfl, hblocked, hpair, hstep⟩ := exists_of_composite?_eq_some hx
    rw [hstep]
    refine isSettled_replace hsettled (fun m hm => ⟨h.marksInOrder.not_isStarter m hm, ?_⟩) hpair
    exact lt_of_not_blocked h.marksInOrder.pairwise hblocked m hm

theorem IsOrdered.isSettled_foldl_step (h : p.IsOrdered) (hsettled : IsSettled p.text) (hs : InOrder s)
    (hhead : ∀ c ∈ s.head?, p.Accepts c) : IsSettled (s.foldl Segment.step p).text := by
  induction s generalizing p with
  | nil => exact hsettled
  | cons c s ih =>
    have hc := hhead c rfl
    exact ih (h.step hc) (h.isSettled_step hsettled c) (List.isChain_cons.mp hs).2
      (accepts_of_inOrder h.marksInOrder hc hs)

end Segment

theorem isSettled_compose {s : List Code} (h : InOrder s) : IsSettled (compose s) := by
  rw [compose_eq]
  exact Segment.isOrdered_leading_nil.isSettled_foldl_step isSettled_nil h fun c _ => accepts_leading_nil c

/-- A starter at `i` and a code at `j` that compose, though nothing blocks the one from the other. -/
structure IsOpenPair (s : List Code) (i j : Nat) : Prop where
  lt : i < j
  pair : ∃ x ∈ s[i]?, ∃ y ∈ s[j]?, IsStarter x ∧ (composePair x y).isSome ∧
    ∀ l, i < l → l < j → ∀ m ∈ s[l]?, combiningClass m ≠ 0 ∧ combiningClass m < combiningClass y

theorem eq_take_append_cons {s : List Code} {i : Nat} {x : Code} (h : s[i]? = some x) :
    s = s.take i ++ x :: s.drop (i + 1) := by
  obtain ⟨hi, rfl⟩ := List.getElem?_eq_some_iff.mp h
  rw [← List.drop_eq_getElem_cons hi, List.take_append_drop]

theorem IsSettled.not_isOpenPair {s : List Code} (h : IsSettled s) (i j : Nat) : ¬IsOpenPair s i j := by
  rintro ⟨hlt, x, hx, y, hy, hstarter, hsome, hbetween⟩
  have hy' : (s.drop (i + 1))[j - (i + 1)]? = some y := by
    rw [List.getElem?_drop, Nat.add_sub_cancel' hlt]
    exact hy
  have htext := eq_take_append_cons hx
  rw [eq_take_append_cons hy'] at htext
  have hnone := h _ _ _ x y htext hstarter ?_
  · rw [hnone] at hsome
    exact Bool.false_ne_true hsome
  · intro m hm
    obtain ⟨l, hl⟩ := List.mem_iff_getElem?.mp hm
    rw [List.getElem?_take] at hl
    split at hl
    next hlower =>
      rw [List.getElem?_drop] at hl
      exact hbetween (i + 1 + l) (by omega) (by omega) m hl
    next => simp at hl

theorem Form.normalize_leaves_no_open_pair (s : List Code) (i j : Nat) :
    ¬IsOpenPair (nfc.normalize s) i j ∧ ¬IsOpenPair (nfkc.normalize s) i j := by
  have hsettled (k : Mode) : IsSettled (compose (decompose k s)) := isSettled_compose (inOrder_canonicalOrder _)
  exact ⟨(hsettled .canonical).not_isOpenPair i j, (hsettled .compatibility).not_isOpenPair i j⟩

end UnicodeText
