import Mathlib.Data.List.Induction
import UnicodeText.Composition.Compaction

namespace UnicodeText

/-- A composed text of which only the last starter and the marks behind it are open to composition. -/
inductive Segment where
  | leading (marks : List Code)
  | started (closed : List Code) (starter : Code) (marks : List Code)

namespace Segment

def text : Segment → List Code
  | leading marks => marks
  | started closed starter marks => closed ++ starter :: marks

def marks : Segment → List Code
  | leading marks => marks
  | started _ _ marks => marks

def starterPosition : Segment → Option Nat
  | leading _ => none
  | started closed _ _ => some closed.length

def lastClass (p : Segment) : Option Nat := p.marks.getLast?.map combiningClass

def composite? : Segment → Code → Option Code
  | leading _, _ => none
  | started _ starter marks, c =>
    if marks.getLast?.any (combiningClass c ≤ combiningClass ·) then none else composePair starter c

def push : Segment → Code → Segment
  | leading marks, c => if IsStarter c then started marks c [] else leading (marks ++ [c])
  | started closed starter marks, c =>
    if IsStarter c then started (closed ++ starter :: marks) c [] else started closed starter (marks ++ [c])

def replace : Segment → Code → Segment
  | leading marks, _ => leading marks
  | started closed _ marks, c => started closed c marks

def step (p : Segment) (c : Code) : Segment :=
  match p.composite? c with
  | some composite => p.replace composite
  | none => p.push c

theorem step_of_composite?_eq_none {p : Segment} {c : Code} (h : p.composite? c = none) : p.step c = p.push c := by
  rw [step, h]

theorem exists_of_composite?_eq_some {p : Segment} {c x : Code} (h : p.composite? c = some x) :
    ∃ closed starter marks, p = started closed starter marks ∧
      ¬marks.getLast?.any (combiningClass c ≤ combiningClass ·) = true ∧ composePair starter c = some x ∧
      p.step c = started closed x marks := by
  have hstep : p.step c = p.replace x := by rw [step, h]
  cases p with
  | leading marks => simp [composite?] at h
  | started closed starter marks =>
    rw [composite?] at h
    split at h
    · simp at h
    next hblocked => exact ⟨closed, starter, marks, rfl, hblocked, h, hstep⟩

theorem text_push (p : Segment) (c : Code) : (p.push c).text = p.text ++ [c] := by
  cases p with
  | leading marks =>
    rw [push]
    split <;> rfl
  | started closed starter marks =>
    rw [push]
    split <;> simp [text]

theorem starterPosition_push (p : Segment) (c : Code) :
    (p.push c).starterPosition = if IsStarter c then some p.text.length else p.starterPosition := by
  cases p with
  | leading marks =>
    rw [push]
    split <;> rfl
  | started closed starter marks =>
    rw [push]
    split <;> rfl

theorem marks_push (p : Segment) (c : Code) : (p.push c).marks = if IsStarter c then [] else p.marks ++ [c] := by
  cases p with
  | leading marks =>
    rw [push]
    split <;> rfl
  | started closed starter marks =>
    rw [push]
    split <;> rfl

theorem lastClass_push (p : Segment) (c : Code) :
    (p.push c).lastClass = if IsStarter c then none else some (combiningClass c) := by
  rw [lastClass, marks_push]
  split <;> simp

end Segment

namespace Compaction

/-- The state `t` in which `count` codes have been read holds the segment `p`, some codes that are no
longer needed, and the codes that are still to be read. -/
structure Holds (t : Compaction) (count : Nat) (p : Segment) (unread : List Code) : Prop where
  buffer : ∃ stale, t.buffer.toList = p.text ++ stale ++ unread ∧ p.text.length + stale.length = count
  write : t.write = p.text.length
  starter : t.starter = p.starterPosition
  lastClass : t.lastClass = p.lastClass

theorem holds_start (s : List Code) : (start s).Holds 0 (.leading []) s := ⟨⟨[], rfl, rfl⟩, rfl, rfl, rfl⟩

variable {t : Compaction} {count : Nat} {p : Segment} {c : Code} {unread : List Code}

theorem getD_eq_toList (buffer : Array Code) (i : Nat) : buffer.getD i 0 = buffer.toList[i]?.getD 0 := by
  rw [Array.getD_eq_getD_getElem?, Array.getElem?_toList]

theorem Holds.read (h : t.Holds count p (c :: unread)) : t.buffer.getD count 0 = c := by
  obtain ⟨stale, hbuffer, rfl⟩ := h.buffer
  rw [getD_eq_toList, hbuffer, ← List.length_append, List.getElem?_append_right (Nat.le_refl _)]
  simp

theorem Holds.composite? (h : t.Holds count p unread) (c : Code) :
    t.composite? c = (p.composite? c).bind fun x => p.starterPosition.map (·, x) := by
  obtain ⟨stale, hbuffer, -⟩ := h.buffer
  rw [Compaction.composite?, isBlocked, h.starter, h.lastClass, Segment.lastClass, Option.any_map]
  cases p with
  | leading marks => rfl
  | started closed starter marks =>
    have hstarter : t.buffer.getD closed.length 0 = starter := by
      rw [getD_eq_toList, hbuffer, Segment.text, List.append_assoc, List.append_assoc,
        List.getElem?_append_right (Nat.le_refl _)]
      simp
    simp only [Segment.starterPosition, Segment.composite?, hstarter, Segment.marks]
    split
    · rfl
    · cases composePair starter c <;> rfl

theorem Holds.push (h : t.Holds count p (c :: unread)) : (t.push c).Holds (count + 1) (p.push c) unread := by
  obtain ⟨stale, hbuffer, rfl⟩ := h.buffer
  -- the code is written over the first stale one, or over itself if there is none
  refine ⟨⟨(stale ++ [c]).tail, ?_, ?_⟩, ?_, ?_, ?_⟩
  · rw [Compaction.push, Array.toList_setIfInBounds, hbuffer, h.write, Segment.text_push]
    cases stale with
    | nil => simp
    | cons y stale => simp
  · rw [Segment.text_push]
    cases stale with
    | nil => simp
    | cons y stale =>
      simp
      omega
  · rw [Compaction.push, Segment.text_push, h.write]
    simp
  · rw [Compaction.push, Segment.starterPosition_push, h.write, h.starter]
  · rw [Compaction.push, Segment.lastClass_push]

theorem Holds.replace {closed marks : List Code} {starter : Code} (x : Code)
    (h : t.Holds count (.started closed starter marks) (c :: unread)) :
    Holds { t with buffer := t.buffer.setIfInBounds closed.length x } (count + 1) (.started closed x marks)
      unread := by
  obtain ⟨stale, hbuffer, rfl⟩ := h.buffer
  refine ⟨⟨stale ++ [c], ?_, ?_⟩, ?_, h.starter, h.lastClass⟩
  · rw [Array.toList_setIfInBounds, hbuffer]
    simp [Segment.text]
  · simp [Segment.text]
    omega
  · rw [h.write]
    simp [Segment.text]

theorem Holds.step (h : t.Holds count p (c :: unread)) : (t.step count).Holds (count + 1) (p.step c) unread := by
  have hcomposite := h.composite? c
  simp only [Compaction.step, h.read, Segment.step]
  cases hx : p.composite? c with
  | none =>
    rw [hx] at hcomposite
    rw [hcomposite]
    exact h.push
  | some x =>
    cases p with
    | leading marks => simp [Segment.composite?] at hx
    | started closed starter marks =>
      rw [hx] at hcomposite
      rw [hcomposite]
      exact h.replace x

theorem holds_after (s read unread : List Code) (h : s = read ++ unread) :
    (after s read.length).Holds read.length (read.foldl Segment.step (.leading [])) unread := by
  induction read using List.reverseRecOn generalizing unread with
  | nil =>
    subst h
    exact holds_start _
  | append_singleton read c ih =>
    have hread := ih (c :: unread) (by simpa using h)
    rw [List.length_append, List.length_singleton, after_succ, List.foldl_append]
    exact hread.step

end Compaction

theorem compose_eq (s : List Code) : compose s = (s.foldl Segment.step (.leading [])).text := by
  have hall := Compaction.holds_after s s [] (List.append_nil s).symm
  obtain ⟨stale, hbuffer, -⟩ := hall.buffer
  rw [compose, Compaction.written, hall.write, hbuffer]
  simp

end UnicodeText
