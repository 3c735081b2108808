import UnicodeText.CombiningClass
import UnicodeText.Composition.Pair

/-!
Canonical composition. The text is compacted where it stands: a code that composes with the last
starter replaces it, and every other code moves down to the end of what is written.
-/

namespace UnicodeText

/-- A text of which a part has been read. The first `write` codes of the buffer are the result so far. -/
structure Compaction where
  buffer : Array Code
  write : Nat
  starter : Option Nat
  /-- The class of the last code that was written, if it stands behind the starter. -/
  lastClass : Option Nat

namespace Compaction

def start (s : List Code) : Compaction := ⟨s.toArray, 0, none, none⟩

def isBlocked (t : Compaction) (c : Code) : Bool := t.lastClass.any (combiningClass c ≤ ·)

def composite? (t : Compaction) (c : Code) : Option (Nat × Code) :=
  match t.starter with
  | none => none
  | some position =>
    if t.isBlocked c then none
    else (composePair (t.buffer.getD position 0) c).map (position, ·)

def push (t : Compaction) (c : Code) : Compaction where
  buffer := t.buffer.setIfInBounds t.write c
  write := t.write + 1
  starter := if IsStarter c then some t.write else t.starter
  lastClass := if IsStarter c then none else some (combiningClass c)

def step (t : Compaction) (read : Nat) : Compaction :=
  let c := t.buffer.getD read 0
  match t.composite? c with
  | some (position, composite) => { t with buffer := t.buffer.setIfInBounds position composite }
  | none => t.push c

theorem size_buffer_step (t : Compaction) (read : Nat) : (t.step read).buffer.size = t.buffer.size := by
  simp only [step]
  split
  · exact Array.size_setIfInBounds
  · exact Array.size_setIfInBounds

def after (s : List Code) (count : Nat) : Compaction := (List.range count).foldl step (start s)

theorem after_succ (s : List Code) (count : Nat) : after s (count + 1) = (after s count).step count := by
  simp [after, List.range_succ]

theorem size_buffer_after (s : List Code) (count : Nat) : (after s count).buffer.size = s.length := by
  induction count with
  | zero => rfl
  | succ count ih => rw [after_succ, size_buffer_step, ih]

def written (t : Compaction) : List Code := t.buffer.toList.take t.write

end Compaction

def compose (s : List Code) : List Code := (Compaction.after s s.length).written

end UnicodeText
