import UnicodeText.Proofs.Composition.Segment

namespace UnicodeText

namespace Segment

def after (before : List Code) : Segment → Segment
  | leading marks => leading (before ++ marks)
  | started closed starter marks => started (before ++ closed) starter marks

theorem text_after (before : List Code) (p : Segment) : (p.after before).text = before ++ p.text := by
  cases p with
  | leading marks => rfl
  | started closed starter marks => simp [after, text]

theorem push_of_isStarter {c : Code} (hc : IsStarter c) (p : Segment) : p.push c = started p.text c [] := by
  cases p with
  | leading marks => exact if_pos hc
  | started closed starter marks => exact if_pos hc

theorem push_after (before : List Code) (p : Segment) (c : Code) : (p.after before).push c = (p.push c).after before := by
  by_cases hc : IsStarter c
  · rw [push_of_isStarter hc, push_of_isStarter hc, text_after]
    rfl
  · cases p with
    | leading marks => simp [after, push, hc]
    | started closed starter marks => simp [after, push, hc]

theorem step_after (before : List Code) (p : Segment) (c : Code) : (p.after before).step c = (p.step c).after before := by
  cases p with
  | leading marks => exact push_after before (leading marks) c
  | started closed starter marks =>
    have hcomposite : ((started closed starter marks).after before).composite? c =
        (started closed starter marks).composite? c := rfl
    rw [step, step, hcomposite]
    split
    · rfl
    · exact push_after before (started closed starter marks) c

theorem foldl_step_after (before : List Code) (p : Segment) (s : List Code) :
    s.foldl step (p.after before) = (s.foldl step p).after before := by
  induction s generalizing p with
  | nil => rfl
  | cons c s ih => rw [List.foldl_cons, step_after, ih, List.foldl_cons]

theorem text_foldl_step_of_composePair {x : Code} (h : ∀ y, composePair x y = none) (marks s : List Code) :
    (s.foldl step (started [] x marks)).text = x :: (s.foldl step (leading marks)).text := by
  induction s generalizing marks with
  | nil => rfl
  | cons c s ih =>
    have hnone : (started [] x marks).composite? c = none := by
      rw [composite?, h]
      split <;> rfl
    have hleading : (leading marks).composite? c = none := rfl
    rw [List.foldl_cons, List.foldl_cons, step_of_composite?_eq_none hnone, step_of_composite?_eq_none hleading]
    by_cases hc : IsStarter c
    · have hpush : (started [] x marks).push c = ((leading marks).push c).after [x] := by
        rw [push_of_isStarter hc, push_of_isStarter hc]
        rfl
      rw [hpush, foldl_step_after, text_after, List.singleton_append]
    · have hstarted : (started [] x marks).push c = started [] x (marks ++ [c]) := if_neg hc
      have hmarks : (leading marks).push c = leading (marks ++ [c]) := if_neg hc
      rw [hstarted, hmarks, ih]

end Segment

theorem compose_cons_of_isStarter {r : Code} (hr : IsStarter r) (s : List Code) :
    compose (r :: s) = (s.foldl Segment.step (.started [] r [])).text := by
  have hstep : (Segment.leading []).step r = .started [] r [] := Segment.push_of_isStarter hr (.leading [])
  rw [compose_eq, List.foldl_cons, hstep]

theorem compose_append_of_composite?_eq_none {s t : List Code} {r : Code} (hr : IsStarter r)
    (h : (s.foldl Segment.step (.leading [])).composite? r = none) :
    compose (s ++ r :: t) = compose s ++ compose (r :: t) := by
  have hclosed (p : Segment) : p.push r = (Segment.started [] r []).after p.text := by
    rw [Segment.push_of_isStarter hr, Segment.after, List.append_nil]
  rw [compose_cons_of_isStarter hr, compose_eq, compose_eq, List.foldl_append, List.foldl_cons,
    Segment.step_of_composite?_eq_none h, hclosed, Segment.foldl_step_after, Segment.text_after]

theorem compose_append_of_composePair {s t : List Code}
    (h : ∀ r ∈ t.head?, IsStarter r ∧ ∀ y, composePair y r = none) : compose (s ++ t) = compose s ++ compose t := by
  cases t with
  | nil => rw [List.append_nil, compose_eq [], List.foldl_nil, Segment.text, List.append_nil]
  | cons r t =>
    obtain ⟨hr, hpair⟩ := h r rfl
    apply compose_append_of_composite?_eq_none hr
    cases s.foldl Segment.step (.leading []) with
    | leading marks => rfl
    | started closed starter marks =>
      rw [Segment.composite?, hpair]
      split <;> rfl

theorem compose_cons_of_composePair {x : Code} (hx : IsStarter x) (h : ∀ y, composePair x y = none) (s : List Code) :
    compose (x :: s) = x :: compose s := by
  rw [compose_cons_of_isStarter hx, Segment.text_foldl_step_of_composePair h, compose_eq]

end UnicodeText
