import UnicodeText.Proofs.Composition.Composed

namespace UnicodeText

namespace Segment

variable {p : Segment} {x : Code}

theorem combiningClass_getLast?_step {n : Nat} (hn : n ≠ 0) {c : Code} (hc : combiningClass c ≠ n)
    (h : ∀ y ∈ p.text.getLast?, combiningClass y ≠ n) : ∀ y ∈ (p.step c).text.getLast?, combiningClass y ≠ n := by
  intro y hy
  cases hx : p.composite? c with
  | none =>
    rw [step_of_composite?_eq_none hx, text_push, List.getLast?_concat] at hy
    obtain rfl : c = y := Option.some.inj hy
    exact hc
  | some x =>
    obtain ⟨closed, starter, marks, rfl, -, hpair, hstep⟩ := exists_of_composite?_eq_some hx
    have hclass : combiningClass x = 0 := isStarter_of_composePair hpair
    rw [hstep] at hy
    simp only [text, List.getLast?_append, List.getLast?_cons, Option.some_or] at h hy
    cases hlast : marks.getLast? with
    | none =>
      rw [hlast] at hy
      obtain rfl : x = y := Option.some.inj hy
      rw [hclass]
      exact hn.symm
    | some m =>
      rw [hlast] at h hy
      exact h y hy

theorem combiningClass_getLast?_foldl_step {n : Nat} (hn : n ≠ 0) {s : List Code} (hs : ∀ c ∈ s, combiningClass c ≠ n)
    (h : ∀ y ∈ p.text.getLast?, combiningClass y ≠ n) :
    ∀ y ∈ (s.foldl step p).text.getLast?, combiningClass y ≠ n := by
  induction s generalizing p with
  | nil => exact h
  | cons c s ih =>
    exact ih (fun y hy => hs y (List.mem_cons_of_mem c hy))
      (combiningClass_getLast?_step hn (hs c List.mem_cons_self) h)

theorem text_foldl_step_ne_append (hx : ¬IsStarter x) {s : List Code} (hs : ∀ c ∈ s, combiningClass x < combiningClass c)
    (h : ∀ y ∈ p.text.getLast?, combiningClass y ≠ combiningClass x) (t : List Code) :
    (s.foldl step p).text ≠ t ++ [x] := by
  intro htext
  have hlast := combiningClass_getLast?_foldl_step hx (fun c hc => Nat.ne_of_gt (hs c hc)) h x
  rw [htext, List.getLast?_concat] at hlast
  exact hlast rfl rfl

theorem not_blocked {marks : List Code} {c : Code} (h : ∀ m ∈ marks, combiningClass m < combiningClass c) :
    ¬marks.getLast?.any (combiningClass c ≤ combiningClass ·) = true := by
  cases hlast : marks.getLast? with
  | none => simp
  | some m => simpa using h m (List.mem_of_getLast? hlast)

theorem composite?_push_mark (hx : ¬IsStarter x) (hp : ∀ m ∈ p.marks, combiningClass m ≤ combiningClass x) {c : Code}
    (hc : combiningClass x < combiningClass c) : (p.push x).composite? c = p.composite? c := by
  cases p with
  | leading marks =>
    have hpush : (leading marks).push x = leading (marks ++ [x]) := if_neg hx
    rw [hpush]
    rfl
  | started closed starter marks =>
    have hpush : (started closed starter marks).push x = started closed starter (marks ++ [x]) := if_neg hx
    have hold : ∀ m ∈ marks, combiningClass m < combiningClass c := fun m hm => Nat.lt_of_le_of_lt (hp m hm) hc
    have hnew : ∀ m ∈ marks ++ [x], combiningClass m < combiningClass c := by
      intro m hm
      rcases List.mem_append.mp hm with hm | hm
      · exact hold m hm
      · rwa [List.mem_singleton.mp hm]
    rw [hpush, composite?, composite?, if_neg (not_blocked hnew), if_neg (not_blocked hold)]

theorem marks_replace (p : Segment) (c : Code) : (p.replace c).marks = p.marks := by
  cases p <;> rfl

theorem replace_push_mark (hx : ¬IsStarter x) (p : Segment) (c : Code) :
    (p.push x).replace c = (p.replace c).push x := by
  cases p with
  | leading marks => simp [push, replace, hx]
  | started closed starter marks => simp [push, replace, hx]

theorem text_foldl_step_of_push_mark (hx : ¬IsStarter x) (hp : ∀ m ∈ p.marks, combiningClass m ≤ combiningClass x)
    {s t : List Code} (hs : ∀ c ∈ s, combiningClass x < combiningClass c)
    (h : (s.foldl step (p.push x)).text = t ++ [x]) : (s.foldl step p).text = t := by
  induction s generalizing p with
  | nil =>
    rw [List.foldl_nil, text_push] at h
    exact List.append_cancel_right h
  | cons c s ih =>
    have hsame := composite?_push_mark hx hp (hs c List.mem_cons_self)
    have htail : ∀ y ∈ s, combiningClass x < combiningClass y := fun y hy => hs y (List.mem_cons_of_mem c hy)
    rw [List.foldl_cons] at h ⊢
    cases hcomposite : p.composite? c with
    | none =>
      rw [hcomposite] at hsame
      rw [step_of_composite?_eq_none hsame] at h
      have hlast : ∀ y ∈ ((p.push x).push c).text.getLast?, combiningClass y ≠ combiningClass x := by
        intro y hy
        rw [text_push, List.getLast?_concat] at hy
        obtain rfl : c = y := Option.some.inj hy
        exact Nat.ne_of_gt (hs c List.mem_cons_self)
      exact absurd h (text_foldl_step_ne_append hx htail hlast t)
    | some z =>
      rw [hcomposite] at hsame
      have hstep : p.step c = p.replace z := by rw [step, hcomposite]
      have hpush : (p.push x).step c = (p.replace z).push x := by
        rw [step, hsame]
        exact replace_push_mark hx p z
      rw [hpush] at h
      rw [hstep]
      exact ih (by rwa [marks_replace]) htail h

theorem composite?_eq_none_of_getLast? (hx : ¬IsStarter x) (hp : p.MarksInOrder) {s t : List Code}
    (hs : ∀ c ∈ s, combiningClass x < combiningClass c) (h : (s.foldl step (p.step x)).text = t ++ [x]) :
    p.composite? x = none := by
  apply Option.eq_none_iff_forall_not_mem.mpr
  intro z hz
  obtain ⟨closed, starter, marks, rfl, hblocked, hpair, hstep⟩ := exists_of_composite?_eq_some hz
  have hlt := lt_of_not_blocked hp.pairwise hblocked
  have hlast : ∀ y ∈ (started closed z marks).text.getLast?, combiningClass y ≠ combiningClass x := by
    intro y hy
    rcases mem_getLast?_text hy with hstarter | hmark
    · obtain rfl : z = y := Option.some.inj hstarter
      have hclass : combiningClass z = 0 := isStarter_of_composePair hpair
      rw [hclass]
      exact fun hzero => hx hzero.symm
    · exact Nat.ne_of_lt (hlt y hmark)
  rw [hstep] at h
  exact text_foldl_step_ne_append hx hs hlast t h

end Segment

end UnicodeText
