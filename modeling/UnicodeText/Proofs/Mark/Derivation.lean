import UnicodeText.Proofs.Composition.Chain
import UnicodeText.Proofs.Form.Equivalence
import UnicodeText.Proofs.Mark.Strip

namespace UnicodeText

open Data (decompositionCodes)

def checkLosing (n i : Nat) : Bool :=
  i.beq 0 || !markAt n && strictly (entryStart n / 4) fun first =>
    !(entryStop n / 4).beq (first + 1) || !(baseIndexAt (decompositionCodes.get first)).beq 0

mutual

theorem scanCells_checkLosing : Data.baseCodeIndex.scanCells 5 checkLosing = true := by decide +kernel

theorem allBelow_baseCodes :
    allBelow 997 (fun i => isCanonicalAtomAt (Data.baseCodes.get i)) = true := by decide +kernel

end

section Codes

variable {c : Code}

theorem checkLosing_baseIndexAt (c : Code) : checkLosing c.toNat (baseIndexAt c.toNat) = true := by
  have hcheck := BlockTable.check_of_scanCells baseCodeIndex_isBlank (fun _ => rfl) scanCells_checkLosing c.toNat
  rwa [baseCodeIndex_isBlank.getD_eq] at hcheck

theorem stripMarks_of_isCombiningMark (h : isCombiningMark c = true) : stripMarks c = c := by
  have hcheck := checkLosing_baseIndexAt c
  rw [isCombiningMark_eq] at h
  apply stripMarks_of_baseIndexAt
  simpa [checkLosing, h] using hcheck

theorem isAtomic_of_baseIndexAt (h : baseIndexAt c.toNat ≠ 0) : IsAtomic .canonical (stripMarks c) := by
  rw [stripMarks_eq, baseAt, if_neg h]
  apply isAtomic_of_isCanonicalAtomAt
  rw [toNat_baseCode]
  exact Packed.check_of_allBelow (by decide) allBelow_baseCodes _

theorem stripMarks_eq_self_iff : stripMarks c = c ↔ baseIndexAt c.toNat = 0 := by
  refine ⟨fun hself => ?_, stripMarks_of_baseIndexAt⟩
  apply Decidable.byContradiction
  intro hindex
  -- a code with a base code has a canonical entry, but a base code has none
  have hatomic := isAtomic_of_baseIndexAt hindex
  rw [hself] at hatomic
  exact hindex (baseIndexAt_of_decomposition?_eq_none hatomic.decomposition?_eq_none)

theorem stripMarks_ne_of_codes_eq_singleton {base : Code} {d : Decomposition}
    (hd : Mode.canonical.decomposition? c = some d) (hcodes : d.codes = [base]) (h : stripMarks c ≠ c) :
    stripMarks base ≠ base := by
  have hrange := codes_of_decomposition? (Mode.decomposition?_eq_some_iff.mp hd).1
  have hcount : entryStop c.toNat / 4 - entryStart c.toNat / 4 = 1 := by
    simpa [hcodes] using (congrArg List.length hrange).symm
  have hbase : base.toNat = decompositionCodes.get (entryStart c.toNat / 4) := by
    rw [hcodes, hcount] at hrange
    rw [← toNat_decompositionCode]
    exact congrArg UInt32.toNat (List.head_eq_of_cons_eq hrange)
  have hstop : entryStop c.toNat / 4 = entryStart c.toNat / 4 + 1 := by omega
  have hcheck := checkLosing_baseIndexAt c
  rw [Ne, stripMarks_eq_self_iff] at h ⊢
  simp only [checkLosing, strictly_eq, Bool.or_eq_true, Bool.and_eq_true, Bool.not_eq_true', Nat.beq_eq, h, false_or,
    hstop, Nat.beq_refl, Bool.true_eq_false, ← hbase] at hcheck
  exact Nat.ne_of_beq_eq_false hcheck.2

end Codes

section Expansion

theorem isCombiningMark_of_mem_expand {c x : Code} (hc : isCombiningMark c = true) (hx : x ∈ expand .canonical c) :
    isCombiningMark x = true := by
  have hfilter := filter_expand c
  rw [stripText_of_isCombiningMark hc, List.flatMap_nil, List.filter_eq_nil_iff] at hfilter
  simpa using hfilter x hx

theorem exists_mark_mem_expand {c : Code} (h : stripMarks c ≠ c) :
    ∃ m ∈ expand .canonical c, isCombiningMark m = true := by
  induction c using expansion_induction .canonical with
  | syllable c hc => exact absurd (stripMarks_of_decomposition?_eq_none (decomposition?_of_isSyllable _ hc)) h
  | atomic c hatomic => exact absurd (stripMarks_of_decomposition?_eq_none hatomic.decomposition?_eq_none) h
  | entry c d hentry ih =>
    obtain ⟨base, marks, hbase⟩ := exists_hasBase hentry
    rw [expand_of_decomposition? hentry, hbase.codes_eq]
    rw [hbase.codes_eq] at ih
    cases marks with
    | nil =>
      obtain ⟨m, hm, hmark⟩ := ih base List.mem_cons_self (stripMarks_ne_of_codes_eq_singleton hentry hbase.codes_eq h)
      exact ⟨m, List.mem_flatMap.mpr ⟨base, List.mem_cons_self, hm⟩, hmark⟩
    | cons mark marks =>
      obtain ⟨m, hm⟩ := List.exists_mem_of_ne_nil _ (expand_ne_nil .canonical mark)
      have hmark : isCombiningMark mark = true := hbase.isCombiningMark_marks mark List.mem_cons_self
      exact ⟨m, List.mem_flatMap.mpr ⟨mark, by simp, hm⟩, isCombiningMark_of_mem_expand hmark hm⟩

end Expansion

section Normalization

variable {c : Code}

theorem mem_decompose_singleton {k : Mode} {x : Code} : x ∈ decompose k [c] ↔ x ∈ expand k c := by
  rw [decompose, mem_canonicalOrder, expandAll_eq, List.flatMap_singleton]

theorem any_isCombiningMark_decompose (hc : isCombiningMark c = false) :
    (decompose .canonical [c]).any isCombiningMark = true ↔ stripMarks c ≠ c := by
  rw [List.any_eq_true]
  constructor
  · rintro ⟨m, hm, hmark⟩ hself
    have hfilter := decompose_stripText [c]
    rw [stripText_of_not_isCombiningMark hc, hself] at hfilter
    rw [hfilter, List.mem_filter, hmark] at hm
    exact Bool.false_ne_true hm.2
  · intro h
    obtain ⟨m, hm, hmark⟩ := exists_mark_mem_expand h
    exact ⟨m, mem_decompose_singleton.mpr hm, hmark⟩

theorem normalize_singleton_of_isAtomic (h : IsAtomic .canonical c) : Form.nfc.normalize [c] = [c] := by
  have hdecompose : decompose .canonical [c] = [c] :=
    decompose_eq_self_iff.mpr ⟨by simpa using h, .singleton c⟩
  change compose (decompose .canonical [c]) = [c]
  rw [hdecompose, compose_eq]
  exact Segment.text_push (.leading []) c

theorem normalize_filter_decompose (s : List Code) :
    Form.nfc.normalize ((Form.nfd.normalize s).filter fun x => !isCombiningMark x) =
      Form.nfc.normalize (stripText s) := by
  have hfilter : (Form.nfd.normalize s).filter (fun x => !isCombiningMark x) = Form.nfd.normalize (stripText s) :=
    (decompose_stripText s).symm
  rw [hfilter]
  exact Form.normalize_eq_ofParts .nfc .nfd (stripText s)

end Normalization

theorem stripMarks_agrees_with_normalization (c : Code) :
    stripMarks c = deriveStripped c ∧ stripMarks (stripMarks c) = stripMarks c := by
  refine ⟨?_, stripMarks_stripMarks c⟩
  rw [deriveStripped, normalize_filter_decompose]
  cases hc : isCombiningMark c with
  | true =>
    -- nothing is left of a mark
    rw [stripText_of_isCombiningMark hc, stripMarks_of_isCombiningMark hc]
    exact (ite_self c).symm
  | false =>
    rw [stripText_of_not_isCombiningMark hc]
    split
    next hany =>
      have hloses := (any_isCombiningMark_decompose hc).mp hany
      rw [normalize_singleton_of_isAtomic (isAtomic_of_baseIndexAt (stripMarks_eq_self_iff.not.mp hloses))]
    next hany => exact Decidable.not_not.mp fun hloses => hany ((any_isCombiningMark_decompose hc).mpr hloses)

end UnicodeText
