import UnicodeText.Table.Block

/-!
Checks of whole tables that evaluation can carry out. A table is checked page by page, the pages that
share the blank block are left out, and what the check finds then holds for all codes.

Several evaluations in one module stand in a mutual block, where they run one after another. Theorems on
their own are evaluated at the same time, and need memory for all of them at once.
-/

namespace UnicodeText

/-- The value of `f` at `n`. Evaluation turns `n` into a numeral first, so that `f` may use it often. -/
def strictly (n : Nat) (f : Nat → Bool) : Bool := Nat.rec (f 0) (fun m _ => f m.succ) n

@[simp] theorem strictly_eq (n : Nat) (f : Nat → Bool) : strictly n f = f n := by
  cases n <;> rfl

def allBelow (n : Nat) (p : Nat → Bool) : Bool := Nat.rec true (fun i rest => cond (p i) rest false) n

theorem allBelow_iff {n : Nat} {p : Nat → Bool} : allBelow n p = true ↔ ∀ i < n, p i = true := by
  induction n with
  | zero => exact ⟨fun _ i hi => absurd hi (Nat.not_lt_zero i), fun _ => rfl⟩
  | succ n ih =>
    have hstep : allBelow (n + 1) p = (p n && allBelow n p) := by
      change cond (p n) (allBelow n p) false = _
      cases p n <;> rfl
    rw [hstep, Bool.and_eq_true, ih]
    constructor
    · rintro ⟨hn, hbelow⟩ i hi
      rcases Nat.lt_succ_iff_lt_or_eq.mp hi with h | rfl
      · exact hbelow i h
      · exact hn
    · intro h
      exact ⟨h n (Nat.lt_succ_self n), fun i hi => h i (Nat.lt_succ_of_lt hi)⟩

def allBetween (start stop : Nat) (p : Nat → Bool) : Bool := allBelow (stop - start) fun i => p (start + i)

theorem allBetween_iff {start stop : Nat} {p : Nat → Bool} :
    allBetween start stop p = true ↔ ∀ i, start ≤ i → i < stop → p i = true := by
  rw [allBetween, allBelow_iff]
  constructor
  · intro h i hstart hstop
    have hi := h (i - start) (by omega)
    rwa [Nat.add_sub_cancel' hstart] at hi
  · intro h i hi
    exact h (start + i) (by omega) (by omega)

namespace Packed

variable {width size : Nat}

theorem get_min (a : Packed width size) (i : Nat) : a.get (min i (size - 1)) = a.get i := by
  rw [get, get]
  congr 3
  omega

theorem check_of_allBelow {a : Packed width size} {p : Nat → Bool} (hsize : 0 < size)
    (h : allBelow size (fun i => p (a.get i)) = true) (i : Nat) : p (a.get i) = true := by
  -- behind the last field the last one is read again
  have hcheck := allBelow_iff.mp h (min i (size - 1)) (by omega)
  rwa [get_min] at hcheck

end Packed

namespace BlockTable

variable {width entries : Nat}

def number (t : BlockTable width entries) (code : Nat) : Nat := t.index.get (code / 256)

def pagesBut (t : BlockTable width entries) (blank : Nat) : List Nat :=
  (List.range t.span).filter fun page => t.index.get page != blank

/-- Every page has a block, and behind the last page the index still names the block `blank`, of which
all cells are zero. -/
structure IsBlank (t : BlockTable width entries) (blank : Nat) : Prop where
  cells : allBelow entries (fun j => (t.cell blank j).beq 0) = true
  index : allBelow t.span (fun page => (t.index.get page).blt t.count) = true
  last : t.index.get (t.span - 1) = blank

theorem IsBlank.cell_eq_zero {t : BlockTable width entries} {blank j : Nat} (h : t.IsBlank blank)
    (hj : j < entries) : t.cell blank j = 0 := Nat.eq_of_beq_eq_true (allBelow_iff.mp h.cells j hj)

theorem IsBlank.number_lt {t : BlockTable width entries} {blank code : Nat} (h : t.IsBlank blank)
    (hcode : code / 256 < t.span) : t.number code < t.count := by
  have hpage := allBelow_iff.mp h.index (code / 256) hcode
  exact Nat.blt_eq.mp hpage

theorem IsBlank.number_eq {t : BlockTable width entries} {blank code : Nat} (h : t.IsBlank blank)
    (hcode : ¬code / 256 < t.span) : t.number code = blank := by
  rw [← h.last, number, Packed.get, Packed.get]
  congr 3
  omega

theorem block_eq_ok {t : BlockTable width entries} {code : Nat} (hcode : code / 256 < t.span)
    (hnumber : t.number code < t.count) : t.block code = .ok (t.number code) := by
  rw [block, if_pos hcode]
  exact if_pos hnumber

theorem IsBlank.block_eq_ok {t : BlockTable width entries} {blank code : Nat} (h : t.IsBlank blank)
    (hcode : code / 256 < t.span) : t.block code = .ok (t.number code) :=
  BlockTable.block_eq_ok hcode (h.number_lt hcode)

theorem block_eq_error {t : BlockTable width entries} {code : Nat} (hcode : ¬code / 256 < t.span) :
    t.block code = .error ⟨t.span, code / 256⟩ := if_neg hcode

theorem IsBlank.cell_of_outside {t : BlockTable width entries} {blank code j : Nat} (h : t.IsBlank blank)
    (hcode : ¬code / 256 < t.span) (hj : j < entries) : t.cell (t.number code) j = 0 := by
  rw [h.number_eq hcode, h.cell_eq_zero hj]

theorem IsBlank.getD_eq {t : BlockTable width 256} {blank : Nat} (h : t.IsBlank blank) (code : Nat) :
    t.getD code 0 = t.cell (t.number code) (code % 256) := by
  by_cases hcode : code / 256 < t.span
  · rw [getD, get, h.block_eq_ok hcode]
    rfl
  · rw [getD, get, block_eq_error hcode, h.cell_of_outside hcode (Nat.mod_lt code (by decide))]
    rfl

theorem IsBlank.rangeD_eq {t : BlockTable width 257} {blank : Nat} (h : t.IsBlank blank) (code : Nat) :
    t.rangeD code (0, 0) = (t.cell (t.number code) (code % 256), t.cell (t.number code) (code % 256 + 1)) := by
  by_cases hcode : code / 256 < t.span
  · rw [rangeD, range, h.block_eq_ok hcode]
    rfl
  · have hcell : code % 256 < 256 := Nat.mod_lt code (by decide)
    rw [rangeD, range, block_eq_error hcode, h.cell_of_outside hcode (by omega),
      h.cell_of_outside hcode (by omega)]
    rfl

theorem IsBlank.bitD_eq {t : BlockTable 8 32} {blank : Nat} (h : t.IsBlank blank) (code : Nat) :
    t.bitD code false = (t.cell (t.number code) (code / 8 % 32)).testBit (code % 8) := by
  by_cases hcode : code / 256 < t.span
  · rw [bitD, bit, h.block_eq_ok hcode]
    rfl
  · rw [bitD, bit, block_eq_error hcode, h.cell_of_outside hcode (Nat.mod_lt _ (by decide)), Nat.zero_testBit]
    rfl

theorem IsBlank.mem_pagesBut {t : BlockTable width entries} {blank code : Nat} (h : t.IsBlank blank)
    (hnumber : t.number code ≠ blank) : code / 256 ∈ t.pagesBut blank := by
  have hspan : code / 256 < t.span := Decidable.byContradiction fun hc => hnumber (h.number_eq hc)
  rw [number] at hnumber
  simp [pagesBut, hspan, hnumber]

def scanCells (t : BlockTable width 256) (blank : Nat) (check : Nat → Nat → Bool) : Bool :=
  (t.pagesBut blank).all fun page =>
    strictly (t.index.get page) fun number =>
      allBelow 256 fun j => strictly (t.cell number j) fun cell => check (256 * page + j) cell

theorem check_of_scanCells {t : BlockTable width 256} {blank : Nat} {check : Nat → Nat → Bool}
    (h : t.IsBlank blank) (hzero : ∀ code, check code 0 = true) (hscan : t.scanCells blank check = true)
    (code : Nat) : check code (t.getD code 0) = true := by
  have hcell : code % 256 < 256 := Nat.mod_lt code (by decide)
  rw [h.getD_eq]
  by_cases hnumber : t.number code = blank
  · rw [hnumber, h.cell_eq_zero hcell]
    exact hzero code
  · have hcheck := List.all_eq_true.mp hscan _ (h.mem_pagesBut hnumber)
    simp only [strictly_eq, allBelow_iff] at hcheck
    have hj := hcheck (code % 256) hcell
    rwa [Nat.div_add_mod] at hj

def scanRanges (t : BlockTable width 257) (blank : Nat) (check : Nat → Nat → Nat → Bool) : Bool :=
  (t.pagesBut blank).all fun page =>
    strictly (t.index.get page) fun number =>
      allBelow 256 fun j =>
        strictly (t.cell number j) fun start =>
          strictly (t.cell number (j + 1)) fun stop => check (256 * page + j) start stop

theorem check_of_scanRanges {t : BlockTable width 257} {blank : Nat} {check : Nat → Nat → Nat → Bool}
    (h : t.IsBlank blank) (hzero : ∀ code, check code 0 0 = true)
    (hscan : t.scanRanges blank check = true) (code : Nat) :
    check code (t.rangeD code (0, 0)).1 (t.rangeD code (0, 0)).2 = true := by
  have hcell : code % 256 < 256 := Nat.mod_lt code (by decide)
  rw [h.rangeD_eq]
  -- the scan leaves out the pages of the blank block, where both offsets are zero
  by_cases hnumber : t.number code = blank
  · rw [hnumber, h.cell_eq_zero (by omega), h.cell_eq_zero (by omega)]
    exact hzero code
  · have hcheck := List.all_eq_true.mp hscan _ (h.mem_pagesBut hnumber)
    simp only [strictly_eq, allBelow_iff] at hcheck
    have hj := hcheck (code % 256) hcell
    rwa [Nat.div_add_mod] at hj

/-- In both tables the page has the block of the page in front of it. -/
def repeatsPage (t : BlockTable width 256) (b : BlockTable 8 32) : Nat → Bool
  | 0 => false
  | page + 1 => (t.index.get (page + 1)).beq (t.index.get page) && (b.index.get (page + 1)).beq (b.index.get page)

def scanWithBits (t : BlockTable width 256) (b : BlockTable 8 32) (check : Nat → Bool → Bool) : Bool :=
  allBelow t.span fun page =>
    t.repeatsPage b page ||
      strictly (t.index.get page) fun number =>
        strictly (b.index.get page) fun bits =>
          allBelow 32 fun i =>
            strictly (b.cell bits i) fun byte =>
              allBelow 8 fun j => strictly (t.cell number (8 * i + j)) fun cell => check cell (byte.testBit j)

theorem check_page_of_scanWithBits {t : BlockTable width 256} {b : BlockTable 8 32} {check : Nat → Bool → Bool}
    (hscan : t.scanWithBits b check = true) {page i j : Nat} (hpage : page < t.span) (hi : i < 32) (hj : j < 8) :
    check (t.cell (t.index.get page) (8 * i + j)) ((b.cell (b.index.get page) i).testBit j) = true := by
  simp only [scanWithBits, strictly_eq, Bool.or_eq_true, allBelow_iff] at hscan
  -- a page that the scan leaves out is like the one in front of it
  induction page with
  | zero => exact (hscan 0 hpage).resolve_left Bool.false_ne_true i hi j hj
  | succ page ih =>
    rcases hscan (page + 1) hpage with hrepeats | hchecked
    · simp only [repeatsPage, Bool.and_eq_true, Nat.beq_eq] at hrepeats
      rw [hrepeats.1, hrepeats.2]
      exact ih (Nat.lt_of_succ_lt hpage)
    · exact hchecked i hi j hj

theorem check_of_scanWithBits {t : BlockTable width 256} {b : BlockTable 8 32} {check : Nat → Bool → Bool}
    (hscan : t.scanWithBits b check = true) {code : Nat} (hcode : code / 256 < t.span) :
    check (t.cell (t.number code) (code % 256))
      ((b.cell (b.number code) (code / 8 % 32)).testBit (code % 8)) = true := by
  have hcell : 8 * (code / 8 % 32) + code % 8 = code % 256 := by omega
  rw [← hcell]
  exact check_page_of_scanWithBits hscan hcode (Nat.mod_lt _ (by decide)) (Nat.mod_lt _ (by decide))

end BlockTable

end UnicodeText
