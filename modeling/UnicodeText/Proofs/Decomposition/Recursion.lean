import UnicodeText.Proofs.Machine.Decomposition

/-!
The recursions through the decomposition table without a bound on their depth. No way down through the entries comes
back to a code, so that they end; and since the codes of an entry without the flag have no entries, following them
down as well would change nothing.
-/

namespace UnicodeText

def IsPartOf (x c : Code) : Prop := ∃ d, decomposition? c = some d ∧ x ∈ d.codes

theorem acc_isPartOf_of_endsWithin {depth : Nat} {c : Code} (h : EndsWithin depth c) : Acc IsPartOf c := by
  induction depth generalizing c with
  | zero =>
    refine ⟨c, fun x ⟨d, hd, _⟩ => ?_⟩
    rw [EndsWithin] at h
    simp [h] at hd
  | succ depth ih => exact ⟨c, fun x ⟨d, hd, hx⟩ => ih (h d hd x hx)⟩

theorem wellFounded_isPartOf : WellFounded IsPartOf :=
  ⟨fun c => acc_isPartOf_of_endsWithin (endsWithin_expansionDepth c)⟩

theorem isPartOf_of_mem_codes {k : Mode} {c x : Code} {d : Decomposition} (h : k.decomposition? c = some d)
    (hx : x ∈ d.codes) : IsPartOf x c := ⟨d, (Mode.decomposition?_eq_some_iff.mp h).1, hx⟩

section Definitions

/-- The codes of every entry are followed down, whether or not it is flagged as recursive. -/
def naiveExpand (k : Mode) (c : Code) : List Code :=
  if Hangul.IsSyllable c then Hangul.jamo c
  else match _h : k.decomposition? c with
    | none => [c]
    | some d => d.codes.attach.flatMap fun x => naiveExpand k x.val
termination_by wellFounded_isPartOf.wrap c
decreasing_by exact isPartOf_of_mem_codes _h x.property

def expandOnto (k : Mode) (c : Code) (written : List Code) : List Code :=
  if Hangul.IsSyllable c then written ++ Hangul.jamo c
  else match _h : k.decomposition? c with
    | none => written ++ [c]
    | some d =>
      if d.isRecursive then d.codes.attach.foldl (fun written x => expandOnto k x.val written) written
      else written ++ d.codes
termination_by wellFounded_isPartOf.wrap c
decreasing_by exact isPartOf_of_mem_codes _h x.property

def measureExpansion (k : Mode) (c : Code) : Option Nat :=
  if Hangul.IsSyllable c then some (Hangul.jamoCount c)
  else match _h : k.decomposition? c with
    | none => none
    | some d =>
      if d.isRecursive then some (d.codes.attach.map fun x => (measureExpansion k x.val).getD 1).sum
      else some d.codes.length
termination_by wellFounded_isPartOf.wrap c
decreasing_by exact isPartOf_of_mem_codes _h x.property

end Definitions

section Equations

variable (k : Mode) (c : Code)

theorem flatMap_attach (s : List Code) (f : Code → List Code) : (s.attach.flatMap fun x => f x.val) = s.flatMap f := by
  rw [List.flatMap_def, List.flatMap_def, List.attach_map_val]

theorem naiveExpand_eq : naiveExpand k c = if Hangul.IsSyllable c then Hangul.jamo c
    else (k.decomposition? c).elim [c] fun d => d.codes.flatMap (naiveExpand k) := by
  rw [naiveExpand]
  split
  next => rfl
  next =>
    split
    next h => rw [h, Option.elim_none]
    next d h => rw [h, Option.elim_some, flatMap_attach]

theorem expandOnto_eq (written : List Code) : expandOnto k c written =
    if Hangul.IsSyllable c then written ++ Hangul.jamo c
    else (k.decomposition? c).elim (written ++ [c]) fun d =>
      if d.isRecursive then d.codes.foldl (fun written x => expandOnto k x written) written
      else written ++ d.codes := by
  rw [expandOnto]
  split
  next => rfl
  next =>
    split
    next h => rw [h, Option.elim_none]
    next d h => rw [h, Option.elim_some, List.foldl_attach (f := fun written x => expandOnto k x written)]

theorem measureExpansion_eq : measureExpansion k c = if Hangul.IsSyllable c then some (Hangul.jamoCount c)
    else (k.decomposition? c).elim none fun d =>
      if d.isRecursive then some (d.codes.map fun x => (measureExpansion k x).getD 1).sum
      else some d.codes.length := by
  rw [measureExpansion]
  split
  next => rfl
  next =>
    split
    next h => rw [h, Option.elim_none]
    next d h => rw [h, Option.elim_some, List.attach_map_val (f := fun x => (measureExpansion k x).getD 1)]

end Equations

section Flags

variable {k : Mode} {c : Code} {d : Decomposition}

theorem expand_of_isRecursive (h : k.decomposition? c = some d) :
    expand k c = if d.isRecursive then d.codes.flatMap (expand k) else d.codes := by
  rw [← expandWithin_expansionDepth_add k 1, expandWithin_of_decomposition? expansionDepth h]
  rfl

theorem decomposedLength?_of_isRecursive (h : k.decomposition? c = some d) : decomposedLength? k c =
    if d.isRecursive then some (d.codes.map fun x => (decomposedLength? k x).getD 1).sum else some d.codes.length := by
  rw [← decomposedLengthWithin_expansionDepth_add k 1, decomposedLengthWithin,
    if_neg (not_isSyllable_of_decomposition? h), h]
  rfl

end Flags

theorem expand_eq_naiveExpand (k : Mode) (c : Code) : expand k c = naiveExpand k c := by
  induction c using expansion_induction k with
  | syllable c hc => rw [expand_of_isSyllable k hc, naiveExpand_eq, if_pos hc]
  | atomic c hatomic =>
    rw [expand_of_isAtomic hatomic, naiveExpand_eq, if_neg hatomic.not_isSyllable, hatomic.decomposition?_eq_none,
      Option.elim_none]
  | entry c d hentry ih =>
    rw [expand_of_decomposition? hentry, naiveExpand_eq, if_neg (not_isSyllable_of_decomposition? hentry), hentry,
      Option.elim_some]
    exact List.flatMap_congr ih

theorem foldl_expandOnto {k : Mode} {s : List Code}
    (h : ∀ x ∈ s, ∀ written, expandOnto k x written = written ++ expand k x) (written : List Code) :
    s.foldl (fun written x => expandOnto k x written) written = written ++ s.flatMap (expand k) := by
  induction s generalizing written with
  | nil => simp
  | cons x s ih =>
    rw [List.foldl_cons, h x List.mem_cons_self, ih fun y hy => h y (List.mem_cons_of_mem x hy), List.flatMap_cons,
      List.append_assoc]

theorem expandOnto_eq_append (k : Mode) (c : Code) (written : List Code) :
    expandOnto k c written = written ++ expand k c := by
  induction c using expansion_induction k generalizing written with
  | syllable c hc => rw [expandOnto_eq, if_pos hc, expand_of_isSyllable k hc]
  | atomic c hatomic =>
    rw [expandOnto_eq, if_neg hatomic.not_isSyllable, hatomic.decomposition?_eq_none, Option.elim_none,
      expand_of_isAtomic hatomic]
  | entry c d hentry ih =>
    rw [expandOnto_eq, if_neg (not_isSyllable_of_decomposition? hentry), hentry, Option.elim_some,
      expand_of_isRecursive hentry, foldl_expandOnto ih]
    split <;> rfl

theorem measureExpansion_eq_decomposedLength? (k : Mode) (c : Code) : measureExpansion k c = decomposedLength? k c := by
  induction c using expansion_induction k with
  | syllable c hc =>
    rw [measureExpansion_eq, if_pos hc, decomposedLength?, expansionDepth, decomposedLengthWithin, if_pos hc]
  | atomic c hatomic =>
    rw [measureExpansion_eq, if_neg hatomic.not_isSyllable, hatomic.decomposition?_eq_none, Option.elim_none,
      decomposedLength?_of_isAtomic hatomic]
  | entry c d hentry ih =>
    have hlengths := List.map_congr_left fun x hx => congrArg (Option.getD · 1) (ih x hx)
    rw [measureExpansion_eq, if_neg (not_isSyllable_of_decomposition? hentry), hentry, Option.elim_some,
      decomposedLength?_of_isRecursive hentry, hlengths]

/-- No way down through the entries goes on for ever. The recursions that follow it, both the one that expands a code
and the one that measures the expansion, come to their end within four levels; and what is written behind the text
that stands there already is the expansion that follows every entry, whatever its flag. -/
theorem recursions_end_in_naive_expansion :
    WellFounded IsPartOf ∧
    ∀ (k : Mode) (c : Code), expand k c = naiveExpand k c ∧
      (∀ written, expandOnto k c written = written ++ naiveExpand k c) ∧
      measureExpansion k c = decomposedLength? k c ∧
      ∀ spare, Machine.expandWithin k (expansionDepth + spare + 1) c = .ok (naiveExpand k c) ∧
        ∀ room, Machine.decomposedLengthWithin (18 + room) k (expansionDepth + spare + 1) c =
          .ok (measureExpansion k c) := by
  refine ⟨wellFounded_isPartOf, fun k c => ?_⟩
  rw [← expand_eq_naiveExpand, measureExpansion_eq_decomposedLength?]
  refine ⟨rfl, expandOnto_eq_append k c, rfl, fun spare => ⟨?_, fun room => ?_⟩⟩
  · exact Machine.expandWithin_expansionDepth_eq_ok k c spare
  · have hlimit := Nat.le_trans (decomposedLength?_getD_le k c) (Nat.le_add_right 18 room)
    exact Machine.decomposedLengthWithin_expansionDepth_eq_ok k c spare hlimit

end UnicodeText
