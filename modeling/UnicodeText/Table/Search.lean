namespace UnicodeText

/-- A position `i` with `low ≤ i < high` and `key i = target`, where `key` increases. Every step at
least halves the interval, so `steps = high - low` are enough. -/
def bisect (key : Nat → Nat) (target : Nat) : (steps low high : Nat) → Option Nat
  | 0, _, _ => none
  | steps + 1, low, high =>
    if low < high then
      let middle := low + (high - low) / 2
      if key middle < target then bisect key target steps (middle + 1) high
      else if target < key middle then bisect key target steps low middle
      else some middle
    else none

theorem key_of_bisect_eq_some {key : Nat → Nat} {target steps low high i : Nat}
    (h : bisect key target steps low high = some i) : key i = target ∧ low ≤ i ∧ i < high := by
  induction steps generalizing low high with
  | zero => simp [bisect] at h
  | succ steps ih =>
    rw [bisect] at h
    dsimp only at h
    split at h
    · split at h
      · have := ih h
        omega
      · split at h
        · have := ih h
          omega
        · simp only [Option.some.injEq] at h
          subst h
          omega
    · simp at h

end UnicodeText
