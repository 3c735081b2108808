import UnicodeText.CanonicalOrder
import UnicodeText.Proofs.Machine.Property

namespace UnicodeText.Machine

/-- Moves the marks of a class higher than `least` before place `j` up by one, and finds the place that is left. -/
def makeRoom (least : Nat) : Nat → Array Code → Run (Nat × Array Code)
  | 0, buffer => return (0, buffer)
  | j + 1, buffer => do
    let previous ← readAt buffer j
    let combining ← combiningClass previous
    if combining ≤ least then return (j + 1, buffer)
    else do
      let buffer ← writeAt buffer (j + 1) previous
      makeRoom least j buffer

def placeMark (buffer : Array Code) (i : Nat) : Run (Array Code) := do
  let c ← readAt buffer i
  let combining ← combiningClass c
  if combining = 0 then return buffer
  else do
    let (j, buffer) ← makeRoom combining i buffer
    writeAt buffer j c

def orderFrom (limit : Nat) : (count i : Nat) → Array Code → Run (Array Code)
  | 0, i, buffer => if i < buffer.size then .error .unfinished else return buffer
  | count + 1, i, buffer =>
    if i < buffer.size then do
      let buffer ← placeMark buffer i
      let next ← plus limit i 1
      orderFrom limit count next buffer
    else return buffer

def canonicalOrder (limit : Nat) (s : List Code) : Run (List Code) := do
  let buffer ← orderFrom limit s.length 1 s.toArray
  return buffer.toList

theorem makeRoom_eq_ok (c x : Code) (before after : List Code) :
    ∃ j buffer, makeRoom (UnicodeText.combiningClass c) before.length (before.reverse ++ x :: after).toArray =
      .ok (j, buffer) ∧ writeAt buffer j c = .ok ((insertMark c before).reverse ++ after).toArray := by
  induction before generalizing x after with
  | nil => exact ⟨0, _, rfl, writeAt_append rfl x c after⟩
  | cons last before ih =>
    have htext : (last :: before).reverse ++ x :: after = before.reverse ++ last :: x :: after := by simp
    rw [List.length_cons, makeRoom, htext, readAt_append List.length_reverse, ok_bind, combiningClass_eq_ok, ok_bind,
      insertMark]
    split
    next hle =>
      refine ⟨before.length + 1, _, rfl, ?_⟩
      rw [if_neg (by omega), ← htext, writeAt_append (by simp)]
      simp
    next hlt =>
      rw [if_pos (by omega), ← htext, writeAt_append (by simp), ok_bind]
      obtain ⟨j, buffer, hmake, hwrite⟩ := ih last (last :: after)
      refine ⟨j, buffer, ?_, ?_⟩
      · rw [← hmake]
        simp
      · rw [hwrite]
        simp

theorem placeMark_eq_ok (c : Code) (before after : List Code) :
    placeMark (before.reverse ++ c :: after).toArray before.length =
      .ok ((placeCode before c).reverse ++ after).toArray := by
  rw [placeMark, readAt_append List.length_reverse, ok_bind, combiningClass_eq_ok, ok_bind, placeCode]
  split
  next => simp
  next =>
    obtain ⟨j, buffer, hmake, hwrite⟩ := makeRoom_eq_ok c c before after
    rw [hmake]
    exact hwrite

theorem orderFrom_eq_ok {limit count : Nat} (before after : List Code) (hcount : after.length ≤ count)
    (hlimit : before.length + after.length ≤ limit) :
    orderFrom limit count before.length (before.reverse ++ after).toArray =
      .ok (after.foldl placeCode before).reverse.toArray := by
  induction after generalizing count before with
  | nil =>
    have hend : ¬before.length < (before.reverse ++ []).toArray.size := by simp
    cases count with
    | zero => rw [orderFrom, if_neg hend, List.append_nil]; rfl
    | succ count => rw [orderFrom, if_neg hend, List.append_nil]; rfl
  | cons c after ih =>
    obtain ⟨count, rfl⟩ : ∃ m, count = m + 1 := ⟨count - 1, by rw [List.length_cons] at hcount; omega⟩
    rw [List.length_cons] at hcount hlimit
    have hlength := length_placeCode before c
    rw [orderFrom, if_pos (by simp), placeMark_eq_ok, ok_bind, plus_eq_ok (by omega), ok_bind, ← hlength]
    exact ih (placeCode before c) (by omega) (by omega)

theorem canonicalOrder_eq_ok {limit : Nat} {s : List Code} (hlimit : s.length ≤ limit) :
    canonicalOrder limit s = .ok (UnicodeText.canonicalOrder s) := by
  rw [canonicalOrder, UnicodeText.canonicalOrder]
  cases s with
  | nil => rfl
  | cons c s =>
    -- the first code stays where it is
    have hfirst : placeCode [] c = [c] := by
      rw [placeCode]
      split <;> rfl
    have hcount : s.length ≤ s.length + 1 := Nat.le_succ _
    have horder := orderFrom_eq_ok [c] s hcount (by simpa [Nat.add_comm] using hlimit)
    rw [List.foldl_cons, hfirst, List.length_cons]
    simp only [List.reverse_singleton, List.singleton_append, List.length_singleton] at horder
    rw [horder]
    rfl

end UnicodeText.Machine
