import UnicodeText.Proofs.CanonicalOrder
import UnicodeText.Proofs.Mark.Entries

namespace UnicodeText

theorem stripText_cons (c : Code) (s : List Code) : stripText (c :: s) = stripText [c] ++ stripText s := by
  rw [stripText, stripText, stripText, ← List.map_append, ← List.filter_append, List.singleton_append]

theorem stripText_of_isCombiningMark {c : Code} (h : isCombiningMark c = true) : stripText [c] = [] := by
  simp [stripText, h]

theorem stripText_of_not_isCombiningMark {c : Code} (h : isCombiningMark c = false) :
    stripText [c] = [stripMarks c] := by
  simp [stripText, h]

theorem mem_stripText {s : List Code} {x : Code} :
    x ∈ stripText s ↔ ∃ c ∈ s, isCombiningMark c = false ∧ stripMarks c = x := by
  simp [stripText, and_assoc]

theorem codesOf_stripString (s : String) : codesOf (stripString s) = stripText (codesOf s) := by
  apply codesOf_textOf
  intro x hx
  obtain ⟨c, hc, -, rfl⟩ := mem_stripText.mp hx
  exact isScalar_stripMarks (isScalar_of_mem_codesOf hc)

theorem stripText_stripText (s : List Code) : stripText (stripText s) = stripText s := by
  have hbase : ∀ x ∈ stripText s, isCombiningMark x = false ∧ stripMarks x = x := by
    intro x hx
    obtain ⟨c, -, hc, rfl⟩ := mem_stripText.mp hx
    exact ⟨isCombiningMark_stripMarks hc, stripMarks_stripMarks c⟩
  have hkept : (stripText s).filter (fun c => !isCombiningMark c) = stripText s := by
    apply List.filter_eq_self.mpr
    intro x hx
    rw [(hbase x hx).1, Bool.not_false]
  calc stripText (stripText s) = (stripText s).map stripMarks := by rw [stripText, hkept]
    _ = (stripText s).map id := List.map_congr_left fun x hx => (hbase x hx).2
    _ = stripText s := List.map_id _

theorem filter_expand (c : Code) : (expand .canonical c).filter (fun x => !isCombiningMark x) =
    (stripText [c]).flatMap (expand .canonical) := by
  induction c using expansion_induction .canonical with
  | syllable c hc =>
    rw [stripText_of_not_isCombiningMark (isCombiningMark_eq_false_of_isSyllable hc), List.flatMap_singleton,
      stripMarks_of_decomposition?_eq_none (decomposition?_of_isSyllable _ hc), expand_of_isSyllable .canonical hc]
    apply List.filter_eq_self.mpr
    intro x hx
    rw [isCombiningMark_eq_false_of_mem_jamo hc hx, Bool.not_false]
  | atomic c hatomic =>
    rw [expand_of_isAtomic hatomic]
    cases hc : isCombiningMark c with
    | true => simp [stripText_of_isCombiningMark hc, hc]
    | false =>
      rw [stripText_of_not_isCombiningMark hc, stripMarks_of_decomposition?_eq_none hatomic.decomposition?_eq_none,
        List.flatMap_singleton, expand_of_isAtomic hatomic]
      simp [hc]
  | entry c d hentry ih =>
    obtain ⟨base, marks, hbase⟩ := exists_hasBase hentry
    rw [hbase.codes_eq] at ih
    have hmarks : (marks.flatMap (expand .canonical)).filter (fun x => !isCombiningMark x) = [] := by
      rw [List.filter_flatMap, List.flatMap_eq_nil_iff]
      intro m hm
      rw [ih m (List.mem_cons_of_mem base hm), stripText_of_isCombiningMark (hbase.isCombiningMark_marks m hm)]
      rfl
    have hcodes : expand .canonical c = expand .canonical base ++ marks.flatMap (expand .canonical) := by
      rw [expand_of_decomposition? hentry, hbase.codes_eq, List.flatMap_cons]
    rw [hcodes, List.filter_append, hmarks, List.append_nil, ih base List.mem_cons_self]
    cases hc : isCombiningMark c with
    | true =>
      rw [stripText_of_isCombiningMark hc, stripText_of_isCombiningMark (hbase.isCombiningMark_base.trans hc)]
    | false =>
      rw [stripText_of_not_isCombiningMark hc,
        stripText_of_not_isCombiningMark (hbase.isCombiningMark_base.trans hc), List.flatMap_singleton,
        List.flatMap_singleton]
      rcases hbase.stripMarks_eq hc with hsame | ⟨rfl, hself, hbaseSelf⟩
      · rw [hsame]
      · rw [hself, hbaseSelf, hcodes]
        exact (List.append_nil _).symm

theorem filter_expandAll (s : List Code) : (expandAll .canonical s).filter (fun x => !isCombiningMark x) =
    expandAll .canonical (stripText s) := by
  rw [expandAll_eq, expandAll_eq]
  induction s with
  | nil => rfl
  | cons c s ih =>
    rw [List.flatMap_cons, List.filter_append, ih, filter_expand, stripText_cons c s, List.flatMap_append]

theorem filter_decompose (s : List Code) : (decompose .canonical s).filter (fun x => !isCombiningMark x) =
    expandAll .canonical (stripText s) := by
  have hstarter : ∀ c, (!isCombiningMark c) = true → IsStarter c := by
    intro c hkept
    apply Decidable.byContradiction
    intro hc
    simp [isCombiningMark_of_not_isStarter hc] at hkept
  rw [decompose, filter_canonicalOrder fun a b ha hb => (hstarter a ha).trans (hstarter b hb).symm, filter_expandAll]

theorem decompose_stripText (s : List Code) : decompose .canonical (stripText s) =
    (decompose .canonical s).filter fun x => !isCombiningMark x := by
  have hkept : (decompose .canonical (stripText s)).filter (fun x => !isCombiningMark x) =
      decompose .canonical (stripText s) := by
    apply List.filter_eq_self.mpr
    intro x hx
    rw [decompose, mem_canonicalOrder, ← filter_expandAll] at hx
    exact (List.mem_filter.mp hx).2
  -- nothing can be taken out a second time
  calc decompose .canonical (stripText s)
      = (decompose .canonical (stripText s)).filter (fun x => !isCombiningMark x) := hkept.symm
    _ = expandAll .canonical (stripText (stripText s)) := filter_decompose (stripText s)
    _ = expandAll .canonical (stripText s) := by rw [stripText_stripText]
    _ = (decompose .canonical s).filter (fun x => !isCombiningMark x) := (filter_decompose s).symm

theorem stripString_removes_marks (s : String) :
    Form.nfd.normalize (codesOf (stripString s)) =
      (Form.nfd.normalize (codesOf s)).filter (fun c => !isCombiningMark c) ∧
    (∀ c ∈ Form.nfd.normalize (codesOf (stripString s)), isCombiningMark c = false) ∧
    stripString (stripString s) = stripString s := by
  have hfilter : Form.nfd.normalize (codesOf (stripString s)) =
      (Form.nfd.normalize (codesOf s)).filter fun c => !isCombiningMark c := by
    rw [codesOf_stripString]
    exact decompose_stripText (codesOf s)
  refine ⟨hfilter, ?_, ?_⟩
  · intro c hc
    rw [hfilter] at hc
    simpa using (List.mem_filter.mp hc).2
  · rw [stripString, codesOf_stripString, stripText_stripText]
    rfl

end UnicodeText
