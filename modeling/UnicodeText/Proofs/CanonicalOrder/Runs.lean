import UnicodeText.Proofs.CanonicalOrder

namespace UnicodeText

section Append

variable {s t : List Code}

theorem canonicalOrder_nil : canonicalOrder [] = [] := rfl

theorem canonicalOrder_cons_of_isStarter {r : Code} (hr : IsStarter r) (t : List Code) :
    canonicalOrder (r :: t) = r :: canonicalOrder t := canonicalOrder_append_of_isStarter hr [] t

theorem canonicalOrder_append_of_head? (h : ∀ r ∈ t.head?, IsStarter r) :
    canonicalOrder (s ++ t) = canonicalOrder s ++ canonicalOrder t := by
  cases t with
  | nil => rw [List.append_nil, canonicalOrder_nil, List.append_nil]
  | cons r t =>
    rw [canonicalOrder_append_of_isStarter (h r rfl), canonicalOrder_cons_of_isStarter (h r rfl)]

theorem canonicalOrder_append_of_getLast? (h : ∀ r ∈ s.getLast?, IsStarter r) :
    canonicalOrder (s ++ t) = canonicalOrder s ++ canonicalOrder t := by
  rcases s.eq_nil_or_concat with rfl | ⟨s, r, rfl⟩
  · rw [canonicalOrder_nil, List.nil_append, List.nil_append]
  · rw [List.concat_eq_append] at h ⊢
    have hr : IsStarter r := h r List.getLast?_concat
    rw [List.append_assoc, List.singleton_append, canonicalOrder_append_of_isStarter hr,
      canonicalOrder_append_of_isStarter hr, canonicalOrder_nil, List.append_assoc, List.singleton_append]

theorem getElem?_canonicalOrder_of_isStarter {i : Nat} {c : Code} (h : s[i]? = some c) (hc : IsStarter c) :
    (canonicalOrder s)[i]? = some c := by
  obtain ⟨hi, rfl⟩ := List.getElem?_eq_some_iff.mp h
  have hsplit : s.take i ++ s[i] :: s.drop (i + 1) = s := by rw [List.getElem_cons_drop, List.take_append_drop]
  have hlength : (canonicalOrder (s.take i)).length = i := by
    rw [length_canonicalOrder, List.length_take, Nat.min_eq_left (Nat.le_of_lt hi)]
  have horder := canonicalOrder_append_of_isStarter hc (s.take i) (s.drop (i + 1))
  rw [hsplit] at horder
  rw [horder, List.getElem?_append_right (Nat.le_of_eq hlength), hlength, Nat.sub_self, List.getElem?_cons_zero]

end Append

section StableSort

def classLE (a b : Code) : Bool := decide (combiningClass a ≤ combiningClass b)

def hasClass (n : Nat) (c : Code) : Bool := combiningClass c == n

theorem classLE_trans (a b c : Code) (hab : classLE a b = true) (hbc : classLE b c = true) : classLE a c = true := by
  simp only [classLE, decide_eq_true_eq] at *
  exact Nat.le_trans hab hbc

theorem classLE_total (a b : Code) : (classLE a b || classLE b a) = true := by
  simp only [classLE, Bool.or_eq_true, decide_eq_true_eq]
  exact Nat.le_total _ _

variable {s t : List Code}

theorem combiningClass_eq_of_hasClass {n : Nat} (a b : Code) (ha : hasClass n a = true) (hb : hasClass n b = true) :
    combiningClass a = combiningClass b := by
  rw [eq_of_beq ha, eq_of_beq hb]

theorem filter_mergeSort (n : Nat) (s : List Code) :
    (s.mergeSort classLE).filter (hasClass n) = s.filter (hasClass n) := by
  have hsorted : (s.filter (hasClass n)).Pairwise fun a b => classLE a b = true := by
    apply List.pairwise_of_forall_mem_list
    intro a ha b hb
    have hclass := combiningClass_eq_of_hasClass a b (List.mem_filter.mp ha).2 (List.mem_filter.mp hb).2
    exact decide_eq_true (Nat.le_of_eq hclass)
  have hkept := (List.sublist_mergeSort classLE_trans classLE_total hsorted List.filter_sublist).filter (hasClass n)
  simp only [List.filter_filter, Bool.and_self] at hkept
  have hlength := ((List.mergeSort_perm s classLE).filter (hasClass n)).length_eq
  exact (hkept.eq_of_length hlength.symm).symm

theorem combiningClass_le_of_filter {b : Code} (h : ∀ n, s.filter (hasClass n) = t.filter (hasClass n)) (hb : b ∈ t)
    {n : Nat} (hs : ∀ a ∈ s, n ≤ combiningClass a) : n ≤ combiningClass b := by
  have hmem : b ∈ t.filter (hasClass (combiningClass b)) := List.mem_filter.mpr ⟨hb, beq_self_eq_true _⟩
  rw [← h] at hmem
  exact hs b (List.mem_filter.mp hmem).1

theorem combiningClass_le_of_mem_cons {a : Code} (h : (a :: s).Pairwise fun a b => classLE a b = true) :
    ∀ x ∈ a :: s, combiningClass a ≤ combiningClass x := by
  intro x hx
  rcases List.mem_cons.mp hx with rfl | hx
  · exact Nat.le_refl _
  · exact of_decide_eq_true ((List.pairwise_cons.mp h).1 x hx)

theorem eq_of_pairwise_of_filter_eq (hs : s.Pairwise fun a b => classLE a b = true)
    (ht : t.Pairwise fun a b => classLE a b = true) (h : ∀ n, s.filter (hasClass n) = t.filter (hasClass n)) :
    s = t := by
  induction s generalizing t with
  | nil =>
    refine (List.eq_nil_iff_forall_not_mem.mpr fun b hb => ?_).symm
    have hle : combiningClass b + 1 ≤ combiningClass b := combiningClass_le_of_filter h hb (by simp)
    omega
  | cons a s ih =>
    cases t with
    | nil =>
      have hle : combiningClass a + 1 ≤ combiningClass a :=
        combiningClass_le_of_filter (fun n => (h n).symm) List.mem_cons_self (by simp)
      omega
    | cons b t =>
      -- the first codes are of the lowest class, and so they are the first of that class
      have hclass : combiningClass a = combiningClass b :=
        Nat.le_antisymm (combiningClass_le_of_filter h List.mem_cons_self (combiningClass_le_of_mem_cons hs))
          (combiningClass_le_of_filter (fun n => (h n).symm) List.mem_cons_self (combiningClass_le_of_mem_cons ht))
      have hfirst := h (combiningClass a)
      simp only [List.filter_cons, hasClass, hclass, beq_self_eq_true, if_true] at hfirst
      obtain ⟨rfl, -⟩ := List.cons.inj hfirst
      rw [ih (List.pairwise_cons.mp hs).2 (List.pairwise_cons.mp ht).2]
      intro n
      have hn := h n
      simp only [List.filter_cons] at hn
      split at hn
      · exact (List.cons.inj hn).2
      · exact hn

theorem pairwise_canonicalOrder (h : ∀ c ∈ s, ¬IsStarter c) :
    (canonicalOrder s).Pairwise fun a b => classLE a b = true := by
  have hchain : (canonicalOrder s).IsChain fun a b => classLE a b = true := by
    refine (inOrder_canonicalOrder s).imp_of_mem_imp fun a b _ hb hab => ?_
    exact decide_eq_true (hab.resolve_left (h b (mem_canonicalOrder.mp hb)))
  have htrans : Trans (fun a b => classLE a b = true) (fun a b => classLE a b = true)
      (fun a b => classLE a b = true) := ⟨fun hab hbc => classLE_trans _ _ _ hab hbc⟩
  exact hchain.pairwise

theorem filter_hasClass_canonicalOrder (n : Nat) (s : List Code) :
    (canonicalOrder s).filter (hasClass n) = s.filter (hasClass n) :=
  filter_canonicalOrder combiningClass_eq_of_hasClass s

theorem canonicalOrder_eq_mergeSort (h : ∀ c ∈ s, ¬IsStarter c) : canonicalOrder s = s.mergeSort classLE := by
  apply eq_of_pairwise_of_filter_eq (pairwise_canonicalOrder h)
  · exact List.pairwise_mergeSort classLE_trans classLE_total s
  · intro n
    rw [filter_hasClass_canonicalOrder, filter_mergeSort]

end StableSort

/-- In the text `before ++ run ++ after` the middle part is a run of marks, and a longest one. -/
structure IsMarkRun (before run after : List Code) : Prop where
  not_isStarter : ∀ c ∈ run, ¬IsStarter c
  before : ∀ r ∈ before.getLast?, IsStarter r
  after : ∀ r ∈ after.head?, IsStarter r

theorem IsMarkRun.canonicalOrder_eq {before run after : List Code} (h : IsMarkRun before run after) :
    canonicalOrder (before ++ run ++ after) =
      canonicalOrder before ++ run.mergeSort classLE ++ canonicalOrder after := by
  rw [canonicalOrder_append_of_head? h.after, canonicalOrder_append_of_getLast? h.before,
    canonicalOrder_eq_mergeSort h.not_isStarter]

theorem canonicalOrder_sorts_mark_runs (s : List Code) :
    (canonicalOrder s).length = s.length ∧ (canonicalOrder s).Perm s ∧
    (∀ (i : Nat) (c : Code), s[i]? = some c → IsStarter c → (canonicalOrder s)[i]? = some c) ∧
    (∀ before run after : List Code, s = before ++ run ++ after → IsMarkRun before run after →
      canonicalOrder s = canonicalOrder before ++ run.mergeSort classLE ++ canonicalOrder after) ∧
    (∀ n : Nat, (canonicalOrder s).filter (hasClass n) = s.filter (hasClass n)) ∧
    (InOrder s → canonicalOrder s = s) ∧
    ∀ (before after : List Code) (x y : Code), s = before ++ [x, y] ++ after → ¬IsStarter x → ¬IsStarter y →
      combiningClass x ≠ combiningClass y → canonicalOrder (before ++ [y, x] ++ after) = canonicalOrder s := by
  refine ⟨length_canonicalOrder s, perm_canonicalOrder s, ?_, ?_, ?_, canonicalOrder_of_inOrder, ?_⟩
  · intro i c h hc
    exact getElem?_canonicalOrder_of_isStarter h hc
  · rintro before run after rfl h
    exact h.canonicalOrder_eq
  · intro n
    exact filter_hasClass_canonicalOrder n s
  · rintro before after x y rfl hx hy hne
    refine (canonicalOrder_exchange (s := [x]) (t := [y]) ?_ ?_ ?_ before after).symm
    · simpa using hx
    · simpa using hy
    · simpa using hne

theorem canonicalOrder_sorts_mark_runs_between :
    (canonicalOrder ([0x301, 0x62] ++ [0x301, 0x300, 0x323] ++ [0x63]))[1]? = some 0x62 ∧
    canonicalOrder ([0x301, 0x62] ++ [0x301, 0x300, 0x323] ++ [0x63]) =
      canonicalOrder [0x301, 0x62] ++ [0x301, 0x300, 0x323].mergeSort classLE ++ canonicalOrder [0x63] ∧
    canonicalOrder ([0x301, 0x62, 0x301] ++ [0x323, 0x300] ++ [0x63]) =
      canonicalOrder ([0x301, 0x62] ++ [0x301, 0x300, 0x323] ++ [0x63]) ∧
    canonicalOrder [0x62, 0x323, 0x301] = [0x62, 0x323, 0x301] := by
  have hclasses : [0x62, 0x63, 0x300, 0x301, 0x323].map combiningClass = [0, 0, 230, 230, 220] := by decide +kernel
  simp only [List.map_cons, List.map_nil, List.cons.injEq, and_true] at hclasses
  obtain ⟨hb, hc, hgrave, hacute, hdot⟩ := hclasses
  obtain ⟨-, -, hstarter, hrun, -, -, hswap⟩ :=
    canonicalOrder_sorts_mark_runs ([0x301, 0x62] ++ [0x301, 0x300, 0x323] ++ [0x63])
  obtain ⟨-, -, -, -, -, hsorted, -⟩ := canonicalOrder_sorts_mark_runs [0x62, 0x323, 0x301]
  refine ⟨hstarter 1 0x62 rfl hb, hrun _ _ _ rfl ⟨?_, ?_, ?_⟩, ?_, hsorted ?_⟩
  · simp [IsStarter, hgrave, hacute, hdot]
  · simp [IsStarter, hb]
  · simp [IsStarter, hc]
  · apply hswap [0x301, 0x62, 0x301] [0x63] 0x300 0x323 rfl
    · simp [IsStarter, hgrave]
    · simp [IsStarter, hdot]
    · simp [hgrave, hdot]
  · simp [InOrder, MayPrecede, IsStarter, hb, hacute, hdot]

end UnicodeText
