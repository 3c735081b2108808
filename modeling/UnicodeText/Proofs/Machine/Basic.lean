import Mathlib.Algebra.Order.Ring.Nat
import UnicodeText.Proofs.Table.Scan

/-!
What a machine meets when it runs the functions of this library. Memory has bounds, a word holds only so
much, and an operation that goes beyond is a fault. Counts of codes and units are words too; what the
largest of these is depends on the machine, so that it is left open and called `limit`.
-/

namespace UnicodeText.Machine

inductive Fault where
  | outOfBounds (e : OutOfBounds)
  | slice (start stop length : Nat)
  | shift (amount : Nat)
  | overflow
  /-- A loop or a recursion that has not come to its end in time. -/
  | unfinished
deriving DecidableEq, Repr

abbrev Run := Except Fault

section Words

def maxCode : Nat := 0xFFFFFFFF

def plus (limit a b : Nat) : Run Nat := if a + b ≤ limit then .ok (a + b) else .error .overflow

def times (limit a b : Nat) : Run Nat := if a * b ≤ limit then .ok (a * b) else .error .overflow

def minus (a b : Nat) : Run Nat := if b ≤ a then .ok (a - b) else .error .overflow

/-- Bits that leave the word are lost, but a shift by a whole word or more is a fault. -/
def shiftLeft (width a amount : Nat) : Run Nat :=
  if amount < width then .ok (a <<< amount % 2 ^ width) else .error (.shift amount)

variable {limit a b : Nat}

theorem plus_eq_ok (h : a + b ≤ limit) : plus limit a b = .ok (a + b) := if_pos h

theorem plus_eq_error (h : limit < a + b) : plus limit a b = .error .overflow := if_neg (Nat.not_le.mpr h)

theorem times_eq_ok (h : a * b ≤ limit) : times limit a b = .ok (a * b) := if_pos h

theorem minus_eq_ok (h : b ≤ a) : minus a b = .ok (a - b) := if_pos h

theorem shiftLeft_eq_ok {width amount : Nat} (h : amount < width) :
    shiftLeft width a amount = .ok (a <<< amount % 2 ^ width) := if_pos h

end Words

section Memory

variable {α : Type}

def readAt (memory : Array α) (i : Nat) : Run α :=
  match memory[i]? with
  | some x => .ok x
  | none => .error (.outOfBounds ⟨memory.size, i⟩)

def writeAt (memory : Array α) (i : Nat) (x : α) : Run (Array α) :=
  if i < memory.size then .ok (memory.setIfInBounds i x) else .error (.outOfBounds ⟨memory.size, i⟩)

def sliceFrom (memory : List α) (start : Nat) : Run (List α) :=
  if start ≤ memory.length then .ok (memory.drop start)
  else .error (.slice start memory.length memory.length)

theorem readAt_eq_ok {memory : Array α} {i : Nat} {x : α} (h : memory[i]? = some x) : readAt memory i = .ok x := by
  rw [readAt, h]

theorem readAt_eq_getD {memory : Array α} {i : Nat} (h : i < memory.size) (fallback : α) :
    readAt memory i = .ok (memory.getD i fallback) := by
  rw [readAt_eq_ok (Array.getElem?_eq_getElem h), Array.getD_eq_getD_getElem?, Array.getElem?_eq_getElem h]
  rfl

theorem writeAt_eq_ok {memory : Array α} {i : Nat} (h : i < memory.size) (x : α) :
    writeAt memory i x = .ok (memory.setIfInBounds i x) := if_pos h

theorem sliceFrom_eq_ok {memory : List α} {start : Nat} (h : start ≤ memory.length) :
    sliceFrom memory start = .ok (memory.drop start) := if_pos h

theorem readAt_append {before : List α} {i : Nat} (h : before.length = i) (x : α) (after : List α) :
    readAt (before ++ x :: after).toArray i = .ok x := by
  subst h
  exact readAt_eq_ok (by simp)

theorem writeAt_append {before : List α} {i : Nat} (h : before.length = i) (x y : α) (after : List α) :
    writeAt (before ++ x :: after).toArray i y = .ok (before ++ y :: after).toArray := by
  subst h
  rw [writeAt_eq_ok (by simp), List.setIfInBounds_toArray, List.set_append_right before.length y (Nat.le_refl _),
    Nat.sub_self, List.set_cons_zero]

end Memory

section Fields

variable {width size : Nat}

def readField (a : Packed width size) (i : Nat) : Run Nat :=
  if i < size then .ok (a.get i) else .error (.outOfBounds ⟨size, i⟩)

def sliceFields (a : Packed width size) (start stop : Nat) : Run (List Nat) :=
  match a.slice? start stop with
  | some fields => .ok fields
  | none => .error (.slice start stop size)

theorem readField_eq_ok {a : Packed width size} {i : Nat} (h : i < size) : readField a i = .ok (a.get i) := if_pos h

theorem sliceFields_eq_ok {a : Packed width size} {start stop : Nat} (hstart : start ≤ stop) (hstop : stop ≤ size) :
    sliceFields a start stop = .ok ((List.range' start (stop - start)).map a.get) := by
  rw [sliceFields, Packed.slice?, if_pos ⟨hstart, hstop⟩]

end Fields

section Runs

variable {α β : Type}

@[simp] theorem ok_bind (a : α) (f : α → Run β) : (Except.ok a : Run α) >>= f = f a := rfl

@[simp] theorem error_bind (e : Fault) (f : α → Run β) : (Except.error e : Run α) >>= f = .error e := rfl

@[simp] theorem pure_eq_ok (a : α) : (pure a : Run α) = .ok a := rfl

theorem mapM_eq_ok {f : α → Run β} {g : α → β} {s : List α} (h : ∀ x ∈ s, f x = .ok (g x)) :
    s.mapM f = .ok (s.map g) := by
  induction s with
  | nil => rfl
  | cons x s ih =>
    rw [List.mapM_cons, h x List.mem_cons_self, ih fun y hy => h y (List.mem_cons_of_mem x hy)]
    rfl

theorem filterM_eq_ok {f : α → Run Bool} {p : α → Bool} (h : ∀ x, f x = .ok (p x)) (s : List α) :
    s.filterM f = .ok (s.filter p) := by
  have haux (kept : List α) : s.filterAuxM f kept = .ok ((s.filter p).reverse ++ kept) := by
    induction s generalizing kept with
    | nil => rfl
    | cons x s ih =>
      rw [List.filterAuxM, h, ok_bind, ih, List.filter_cons]
      cases p x <;> simp
  rw [List.filterM, haux, ok_bind, List.append_nil, List.reverse_reverse]
  rfl

theorem anyM_eq_ok {f : α → Run Bool} {p : α → Bool} (h : ∀ x, f x = .ok (p x)) (s : List α) :
    s.anyM f = .ok (s.any p) := by
  obtain rfl : f = fun x => .ok (p x) := funext h
  exact List.anyM_pure

def total (limit : Nat) (f : α → Run Nat) (s : List α) : Run Nat :=
  s.foldlM (fun sum x => do plus limit sum (← f x)) 0

theorem foldlM_plus_eq_ok {limit : Nat} {f : α → Run Nat} {g : α → Nat} {s : List α} (hf : ∀ x ∈ s, f x = .ok (g x))
    {n : Nat} (h : n + (s.map g).sum ≤ limit) :
    s.foldlM (fun sum x => do plus limit sum (← f x)) n = .ok (n + (s.map g).sum) := by
  induction s generalizing n with
  | nil => rfl
  | cons x s ih =>
    rw [List.map_cons, List.sum_cons] at h
    rw [List.foldlM_cons, hf x List.mem_cons_self, ok_bind, plus_eq_ok (by omega), ok_bind,
      ih (fun y hy => hf y (List.mem_cons_of_mem x hy)) (by omega), List.map_cons, List.sum_cons, Nat.add_assoc]

theorem total_eq_ok {limit : Nat} {f : α → Run Nat} {g : α → Nat} {s : List α} (hf : ∀ x ∈ s, f x = .ok (g x))
    (h : (s.map g).sum ≤ limit) : total limit f s = .ok (s.map g).sum := by
  rw [total, foldlM_plus_eq_ok hf (by omega), Nat.zero_add]

end Runs

end UnicodeText.Machine
