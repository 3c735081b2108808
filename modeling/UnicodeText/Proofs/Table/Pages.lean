import Mathlib.Data.List.Induction
import UnicodeText.Proofs.Machine.Table

namespace UnicodeText

namespace Packed

variable {width : Nat} {fields : List Nat}

theorem bits_ofList_concat (fields : List Nat) (x : Nat) :
    (ofList (fields ++ [x]) : Packed width _).bits = (ofList fields : Packed width _).bits <<< width + x := by
  simp [ofList, ofRows]

theorem get_ofList (h : ∀ x ∈ fields, x < 2 ^ width) {i : Nat} (hi : i < fields.length) :
    (ofList fields : Packed width _).get i = fields[i] := by
  induction fields using List.reverseRecOn with
  | nil => simp at hi
  | append_singleton fields x ih =>
    have hx : x < 2 ^ width := h x (by simp)
    rw [get, bits_ofList_concat, Nat.shiftLeft_eq, Nat.mul_comm]
    rcases Nat.lt_or_ge i fields.length with hlt | hge
    · -- the shift drops the last field, and what is left are the fields in front of it
      have hfield := ih (fun y hy => h y (by simp [hy])) hlt
      have hshift : width * ((fields ++ [x]).length - 1 - i) = width + width * (fields.length - 1 - i) := by
        rw [Nat.add_comm, ← Nat.mul_succ, List.length_append, List.length_singleton]
        congr 1
        omega
      rw [hshift, Nat.shiftRight_add, Nat.shiftRight_eq_div_pow _ width, Nat.mul_add_div (Nat.two_pow_pos width),
        Nat.div_eq_of_lt hx, Nat.add_zero, List.getElem_append_left hlt]
      exact hfield
    · obtain rfl : i = fields.length := by
        rw [List.length_append, List.length_singleton] at hi
        omega
      have hshift : width * ((fields ++ [x]).length - 1 - fields.length) = 0 := by simp
      rw [hshift, Nat.shiftRight_zero, Nat.one_shiftLeft, Nat.and_two_pow_sub_one_eq_mod, Nat.mul_add_mod,
        Nat.mod_eq_of_lt hx, List.getElem_concat_length]
      rfl

theorem get_congr {size₁ size₂ : Nat} (h : size₁ = size₂) (bits i : Nat) :
    (⟨bits⟩ : Packed width size₁).get i = (⟨bits⟩ : Packed width size₂).get i := by
  rw [get, get, h]

end Packed

namespace BlockTable

variable {width entries : Nat}

section Layout

/-- What a table stores: the block number of every page, and the blocks. -/
@[ext] structure Layout (width entries : Nat) where
  index : List Nat
  blocks : List (List Nat)
  index_lt : ∀ number ∈ index, number < 2 ^ 8
  length_block : ∀ block ∈ blocks, block.length = entries
  cell_lt : ∀ block ∈ blocks, ∀ cell ∈ block, cell < 2 ^ width

namespace Layout

def page? (l : Layout width entries) (page : Nat) : Option (List Nat) :=
  l.index[page]?.bind fun number => l.blocks[number]?

def Misses (l : Layout width entries) (code : Nat) : Prop :=
  l.index.length ≤ code >>> 8 ∨ ∃ number, l.index[code >>> 8]? = some number ∧ l.blocks.length ≤ number

def table (l : Layout width entries) : BlockTable width entries := .ofBlocks l.index l.blocks

end Layout

def layout (t : BlockTable width entries) : Layout width entries where
  index := (List.range t.span).map t.index.get
  blocks := (List.range t.count).map fun number => (List.range entries).map (t.cell number)
  index_lt := by
    simp only [List.forall_mem_map]
    exact fun page _ => Nat.one_shiftLeft 8 ▸ t.index.get_lt page
  length_block := by simp
  cell_lt := by
    simp only [List.forall_mem_map]
    exact fun number _ j _ => Nat.one_shiftLeft width ▸ t.cells.get_lt _

end Layout

section Storage

theorem getElem?_flatten {blocks : List (List Nat)} (h : ∀ block ∈ blocks, block.length = entries) {j : Nat}
    (hj : j < entries) (number : Nat) :
    blocks.flatten[entries * number + j]? = blocks[number]?.bind fun block => block[j]? := by
  induction blocks generalizing number with
  | nil => simp
  | cons block blocks ih =>
    have hblock : block.length = entries := h block (by simp)
    cases number with
    | zero =>
      rw [List.flatten_cons, Nat.mul_zero, Nat.zero_add, List.getElem?_append_left (by omega)]
      rfl
    | succ number =>
      have hposition : entries * (number + 1) + j - block.length = entries * number + j := by
        rw [hblock, Nat.mul_succ]
        omega
      have hbehind : block.length ≤ entries * (number + 1) + j := by
        rw [hblock, Nat.mul_succ]
        omega
      rw [List.flatten_cons, List.getElem?_append_right hbehind, hposition, ih fun b hb => h b (by simp [hb])]
      rfl

namespace Layout

variable (l : Layout width entries)

theorem length_flatten_blocks : l.blocks.flatten.length = l.blocks.length * entries := by
  rw [List.length_flatten, List.map_congr_left l.length_block, List.map_const', List.sum_replicate_nat]

theorem cell_table {number j : Nat} (hnumber : number < l.blocks.length) (hj : j < l.blocks[number].length) :
    l.table.cell number j = l.blocks[number][j] := by
  have hentries := l.length_block _ (List.getElem_mem hnumber)
  have hflat : l.blocks.flatten[entries * number + j]? = some l.blocks[number][j] := by
    rw [getElem?_flatten l.length_block (by omega), List.getElem?_eq_getElem hnumber, Option.bind_some,
      List.getElem?_eq_getElem hj]
  obtain ⟨hposition, hcell⟩ := List.getElem?_eq_some_iff.mp hflat
  have hroom : ∀ x ∈ l.blocks.flatten, x < 2 ^ width := by
    intro x hx
    obtain ⟨block, hblock, hx⟩ := List.mem_flatten.mp hx
    exact l.cell_lt block hblock x hx
  rw [← hcell, ← Packed.get_ofList hroom hposition]
  exact Packed.get_congr l.length_flatten_blocks.symm _ _

theorem layout_table : l.table.layout = l := by
  refine Layout.ext (List.ext_getElem (by simp [layout, table, ofBlocks]) ?_)
    (List.ext_getElem (by simp [layout, table, ofBlocks]) ?_)
  · intro page _ hpage
    simp only [layout, List.getElem_map, List.getElem_range]
    exact Packed.get_ofList l.index_lt hpage
  · intro number _ hnumber
    have hentries := l.length_block _ (List.getElem_mem hnumber)
    refine List.ext_getElem (by simp [layout, hentries]) fun j _ hj => ?_
    simp only [layout, List.getElem_map, List.getElem_range]
    exact l.cell_table hnumber hj

end Layout

end Storage

section Lookups

variable {code : Nat}

theorem index_layout_eq_some_iff {t : BlockTable width entries} {page number : Nat} :
    t.layout.index[page]? = some number ↔ page < t.span ∧ t.index.get page = number := by
  simp [layout, List.getElem?_eq_some_iff]

theorem blocks_layout_eq_some_iff {t : BlockTable width entries} {number : Nat} {block : List Nat} :
    t.layout.blocks[number]? = some block ↔ number < t.count ∧ (List.range entries).map (t.cell number) = block := by
  simp [layout, List.getElem?_eq_some_iff]

theorem exists_block_eq_error_iff {t : BlockTable width entries} :
    (∃ e, t.block code = .error e) ↔ t.layout.Misses code := by
  have herror : (∃ e, t.block code = .error e) ↔ ¬(t.block code).isOk := by
    cases t.block code <;> simp [Except.isOk, Except.toBool]
  have hspan : t.layout.index.length = t.span := by simp [layout]
  have hcount : t.layout.blocks.length = t.count := by simp [layout]
  simp only [herror, block_isOk_iff, Layout.Misses, hspan, hcount, index_layout_eq_some_iff,
    Nat.shiftRight_eq_div_pow, Nat.reducePow]
  by_cases hpage : code / 256 < t.span
  · simp [hpage, Nat.not_le.mpr hpage]
  · simp [hpage, Nat.not_lt.mp hpage]

theorem exists_map_block_eq_error_iff {α : Type} {t : BlockTable width entries} (f : Nat → α) :
    (∃ e, (t.block code).map f = .error e) ↔ t.layout.Misses code := by
  rw [← exists_block_eq_error_iff]
  cases t.block code <;> simp [Except.map]

theorem get_eq_map (t : BlockTable width 256) (code : Nat) :
    t.get code = (t.block code).map fun number => t.cell number (code % 256) := by
  rw [get]
  cases t.block code <;> rfl

theorem range_eq_map (t : BlockTable width 257) (code : Nat) : t.range code =
    (t.block code).map fun number => (t.cell number (code % 256), t.cell number (code % 256 + 1)) := by
  rw [range]
  cases t.block code <;> rfl

theorem bit_eq_map (t : BlockTable 8 32) (code : Nat) :
    t.bit code = (t.block code).map fun number => (t.cell number (code / 8 % 32)).testBit (code % 8) := by
  rw [bit]
  cases t.block code <;> rfl

theorem block_of_page? {t : BlockTable width entries} {block : List Nat}
    (h : t.layout.page? (code / 256) = some block) :
    t.block code = .ok (t.number code) ∧ ∀ j < entries, block[j]? = some (t.cell (t.number code) j) := by
  obtain ⟨number, hindex, hblock⟩ := Option.bind_eq_some_iff.mp h
  obtain ⟨hpage, rfl⟩ := index_layout_eq_some_iff.mp hindex
  obtain ⟨hnumber, rfl⟩ := blocks_layout_eq_some_iff.mp hblock
  exact ⟨block_eq_ok hpage hnumber, fun j hj => by simp [number, hj]⟩

theorem get_of_page? {t : BlockTable width 256} {block : List Nat} {x : Nat}
    (h : t.layout.page? (code / 256) = some block) (hx : block[code % 256]? = some x) : t.get code = .ok x := by
  obtain ⟨hblock, hcell⟩ := block_of_page? h
  rw [hcell _ (Nat.mod_lt code (by decide))] at hx
  rw [get, hblock, ← Option.some.inj hx]

theorem range_of_page? {t : BlockTable width 257} {block : List Nat} {start stop : Nat}
    (h : t.layout.page? (code / 256) = some block) (hstart : block[code % 256]? = some start)
    (hstop : block[code % 256 + 1]? = some stop) : t.range code = .ok (start, stop) := by
  have hj : code % 256 < 256 := Nat.mod_lt code (by decide)
  obtain ⟨hblock, hcell⟩ := block_of_page? h
  rw [hcell _ (by omega)] at hstart hstop
  rw [range, hblock, ← Option.some.inj hstart, ← Option.some.inj hstop]

theorem bit_of_page? {t : BlockTable 8 32} {block : List Nat} {byte : Nat}
    (h : t.layout.page? (code / 256) = some block) (hbyte : block[code / 8 % 32]? = some byte) :
    t.bit code = .ok (byte.testBit (code % 8)) := by
  obtain ⟨hblock, hcell⟩ := block_of_page? h
  rw [hcell _ (Nat.mod_lt _ (by decide))] at hbyte
  rw [bit, hblock, ← Option.some.inj hbyte]

end Lookups

section Pages

def valuePage (v : Nat → Nat) (page : Nat) : List Nat := (List.range 256).map fun j => v (256 * page + j)

/-- The page of the truth values of `v`, eight to a byte and the lowest bit first. -/
def IsBitPage (v : Nat → Bool) (page : Nat) (bytes : List Nat) : Prop :=
  ∀ j < 32, ∀ b < 8, bytes[j]?.map (·.testBit b) = some (v (256 * page + 8 * j + b))

instance (v : Nat → Bool) (page : Nat) (bytes : List Nat) : Decidable (IsBitPage v page bytes) :=
  inferInstanceAs (Decidable (∀ j < 32, ∀ b < 8, _))

def offsetPage (offset : Nat → Nat → Nat) (page : Nat) : List Nat := (List.range 257).map (offset page)

variable {n code : Nat}

theorem get_of_valuePage {t : BlockTable width 256} {v : Nat → Nat}
    (h : ∀ page < n, t.layout.page? page = some (valuePage v page)) (hcode : code < 256 * n) :
    t.get code = .ok (v code) := by
  have hcell : (valuePage v (code / 256))[code % 256]? = some (v code) := by
    rw [valuePage, List.getElem?_map, List.getElem?_range (Nat.mod_lt code (by decide)), Option.map_some,
      Nat.div_add_mod]
  exact get_of_page? (h _ (by omega)) hcell

theorem bit_of_isBitPage {t : BlockTable 8 32} {v : Nat → Bool}
    (h : ∀ page < n, ∃ bytes, t.layout.page? page = some bytes ∧ IsBitPage v page bytes) (hcode : code < 256 * n) :
    t.bit code = .ok (v code) := by
  obtain ⟨bytes, hpage, hbits⟩ := h (code / 256) (by omega)
  have hcell := hbits (code / 8 % 32) (Nat.mod_lt _ (by decide)) (code % 8) (Nat.mod_lt _ (by decide))
  have hposition : 256 * (code / 256) + 8 * (code / 8 % 32) + code % 8 = code := by omega
  rw [hposition] at hcell
  obtain ⟨byte, hbyte, hbit⟩ := Option.map_eq_some_iff.mp hcell
  rw [bit_of_page? hpage hbyte, hbit]

theorem range_of_offsetPage {t : BlockTable width 257} {offset : Nat → Nat → Nat}
    (h : ∀ page < n, t.layout.page? page = some (offsetPage offset page)) (hcode : code < 256 * n) :
    t.range code = .ok (offset (code / 256) (code % 256), offset (code / 256) (code % 256 + 1)) := by
  have hcell {j : Nat} (hj : j < 257) : (offsetPage offset (code / 256))[j]? = some (offset (code / 256) j) := by
    rw [offsetPage, List.getElem?_map, List.getElem?_range hj, Option.map_some]
  have hj : code % 256 < 256 := Nat.mod_lt code (by decide)
  exact range_of_page? (h _ (by omega)) (hcell (by omega)) (hcell (by omega))

end Pages

/-- A look-up finds what stands in the page of its code, whichever pages share a block. It fails just if there is no
page or no block, so that the shifts and masks never leave a page that is there. All layouts are those of tables. -/
theorem lookups_read_their_page :
    (∀ {width : Nat} (t : BlockTable width 256) (v : Nat → Nat) (n : Nat),
      (∀ page < n, t.layout.page? page = some (valuePage v page)) → ∀ code < 256 * n, t.get code = .ok (v code)) ∧
    (∀ (t : BlockTable 8 32) (v : Nat → Bool) (n : Nat),
      (∀ page < n, ∃ bytes, t.layout.page? page = some bytes ∧ IsBitPage v page bytes) →
      ∀ code < 256 * n, t.bit code = .ok (v code)) ∧
    (∀ {width : Nat} (t : BlockTable width 257) (offset : Nat → Nat → Nat) (n : Nat),
      (∀ page < n, t.layout.page? page = some (offsetPage offset page)) → ∀ code < 256 * n,
      t.range code = .ok (offset (code / 256) (code % 256), offset (code / 256) (code % 256 + 1))) ∧
    (∀ {width : Nat} (t : BlockTable width 256),
      (∀ c : Code, Machine.lookupWord t c = (t.get c.toNat).mapError .outOfBounds) ∧
      ∀ code, (∃ e, t.get code = .error e) ↔ t.layout.Misses code) ∧
    (∀ t : BlockTable 8 32,
      (∀ c : Code, Machine.lookupBitWord t c = (t.bit c.toNat).mapError .outOfBounds) ∧
      ∀ code, (∃ e, t.bit code = .error e) ↔ t.layout.Misses code) ∧
    (∀ {width : Nat} (t : BlockTable width 257),
      (∀ c : Code, Machine.lookupRangeWord t c = (t.range c.toNat).mapError .outOfBounds) ∧
      ∀ code, (∃ e, t.range code = .error e) ↔ t.layout.Misses code) ∧
    ∀ {width entries : Nat} (l : Layout width entries), l.table.layout = l := by
  refine ⟨fun t v n h code => get_of_valuePage h, fun t v n h code => bit_of_isBitPage h,
    fun t offset n h code => range_of_offsetPage h, fun t => ⟨(Machine.lookupWord_eq · t), fun code => ?_⟩,
    fun t => ⟨(Machine.lookupBitWord_eq · t), fun code => ?_⟩,
    fun t => ⟨(Machine.lookupRangeWord_eq · t), fun code => ?_⟩, fun l => l.layout_table⟩
  · rw [get_eq_map, exists_map_block_eq_error_iff]
  · rw [bit_eq_map, exists_map_block_eq_error_iff]
  · rw [range_eq_map, exists_map_block_eq_error_iff]

section Samples

def sampleValues : Layout 8 256 where
  index := [0, 1, 0, 2]
  blocks := [List.replicate 256 0, (List.replicate 256 0).set 0x41 7, (List.replicate 256 0).set 0xFF 9]
  index_lt := by decide
  length_block := by decide +kernel
  cell_lt := by decide +kernel

def sampleBits : Layout 8 32 where
  index := [0, 1, 1]
  blocks := [List.replicate 32 0, 0x81 :: (List.replicate 30 0 ++ [0x80])]
  index_lt := by decide
  length_block := by decide +kernel
  cell_lt := by decide +kernel

def sampleOffsets : Layout 32 257 where
  index := [0, 0, 1]
  blocks := [(List.replicate 257 12).set 0x41 5]
  index_lt := by decide
  length_block := by decide +kernel
  cell_lt := by decide +kernel

theorem lookups_read_their_page_shared :
    ((∀ page < 4, sampleValues.table.layout.page? page =
        some (valuePage (fun code => if code = 0x141 then 7 else if code = 0x3FF then 9 else 0) page)) ∧
      sampleValues.table.get 0x241 = .ok 0 ∧ sampleValues.table.get 0x3FF = .ok 9) ∧
    ((∀ page < 3, ∃ bytes, sampleBits.table.layout.page? page = some bytes ∧
        IsBitPage (fun code => code / 256 != 0 && [0, 7, 255].contains (code % 256)) page bytes) ∧
      sampleBits.table.bit 0x1FF = .ok true ∧ sampleBits.table.bit 0x2FE = .ok false) ∧
    (∀ page < 2, sampleOffsets.table.layout.page? page =
        some (offsetPage (fun _ j => if j = 0x41 then 5 else 12) page)) ∧
      sampleOffsets.table.range 0x140 = .ok (12, 5) ∧ ∃ e, sampleOffsets.table.range 0x200 = .error e := by
  obtain ⟨hget, hbit, hrange, -, -, herror, hlayout⟩ := lookups_read_their_page
  have hvalues : ∀ page < 4, sampleValues.table.layout.page? page =
      some (valuePage (fun code => if code = 0x141 then 7 else if code = 0x3FF then 9 else 0) page) := by
    rw [hlayout]
    decide +kernel
  have hbits : ∀ page < 3, ∃ bytes, sampleBits.table.layout.page? page = some bytes ∧
      IsBitPage (fun code => code / 256 != 0 && [0, 7, 255].contains (code % 256)) page bytes := by
    rw [hlayout]
    have hpages : ∀ page < 3, sampleBits.page? page = some ((sampleBits.page? page).getD []) ∧
        IsBitPage (fun code => code / 256 != 0 && [0, 7, 255].contains (code % 256)) page
          ((sampleBits.page? page).getD []) := by
      decide +kernel
    exact fun page hpage => ⟨_, hpages page hpage⟩
  have hoffsets : ∀ page < 2, sampleOffsets.table.layout.page? page =
      some (offsetPage (fun _ j => if j = 0x41 then 5 else 12) page) := by
    rw [hlayout]
    decide +kernel
  refine ⟨⟨hvalues, ?_, ?_⟩, ⟨hbits, ?_, ?_⟩, hoffsets, ?_, ?_⟩
  · exact hget _ _ 4 hvalues 0x241 (by decide)
  · exact hget _ _ 4 hvalues 0x3FF (by decide)
  · exact hbit _ _ 3 hbits 0x1FF (by decide)
  · exact hbit _ _ 3 hbits 0x2FE (by decide)
  · exact hrange _ _ 2 hoffsets 0x140 (by decide)
  · rw [(herror _).2, hlayout]
    exact .inr ⟨1, by decide⟩

end Samples

end BlockTable

end UnicodeText
