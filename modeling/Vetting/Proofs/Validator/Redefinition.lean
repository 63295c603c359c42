import Mathlib
import Vetting.Validator.Registry

/-!
# Vetting.Proofs.Validator.Redefinition

Validators that are defined again. Descriptors are entered on a roll one after the other, each in
its last place. So of those of one qualified name the last one is left, and those that are left
stand in the order of their last places.

* `Registry.lasting`: a list without each descriptor that has a later one of its name.
* `Registry.entries_renew`, `Registry.entries_foldl_renew`: along the run the roll holds what lasts
  of the descriptors so far.
* `Registry.dedupe_keeps_last`: what is left, that its names differ, and its order; done again, also
  with more behind it, nothing changes.
-/

namespace Vetting

namespace Registry

/-! ## What lasts -/

section

variable (ds : List Descriptor)

/-- A place in a list of descriptors behind which its qualified name does not come again. -/
def IsLast (i : Fin ds.length) : Prop :=
  ∀ j, i < j → (ds.get j).qualifiedName ≠ (ds.get i).qualifiedName

instance : DecidablePred (IsLast ds) := fun i =>
  inferInstanceAs (Decidable (∀ j, i < j → (ds.get j).qualifiedName ≠ (ds.get i).qualifiedName))

/-- A list of descriptors without each that has a later one of its qualified name. -/
def lasting : List Descriptor := ((List.finRange ds.length).filter (IsLast ds ·)).map ds.get

/-- Two descriptors of a list, each where its qualified name comes for the last time, and the first
before the second. -/
def LastsBefore (d e : Descriptor) : Prop :=
  ∃ i j, i < j ∧ (IsLast ds i ∧ ds.get i = d) ∧ IsLast ds j ∧ ds.get j = e

/-- Whether no later descriptor has the name of one. -/
def outlasts (later : List Descriptor) (d : Descriptor) : Bool :=
  later.all (·.qualifiedName != d.qualifiedName)

end

variable {ds : List Descriptor} {d : Descriptor}

theorem outlasts_iff : outlasts ds d = true ↔ d.qualifiedName ∉ ds.map (·.qualifiedName) := by
  simp [outlasts]

theorem isLast_zero_iff : IsLast (d :: ds) 0 ↔ outlasts ds d = true := by
  simp only [outlasts, List.all_eq_true, bne_iff_ne, List.forall_mem_iff_get]
  constructor
  · intro h j
    exact h j.succ j.succ_pos
  · intro h j hj
    cases j using Fin.cases with
    | zero => exact absurd hj (lt_irrefl _)
    | succ j => exact h j

theorem isLast_succ_iff {i : Fin ds.length} : IsLast (d :: ds) i.succ ↔ IsLast ds i := by
  constructor
  · intro h j hj
    exact h j.succ (Fin.succ_lt_succ_iff.2 hj)
  · intro h j hj
    cases j using Fin.cases with
    | zero => exact absurd hj (Fin.not_lt_zero _)
    | succ j => exact h j (Fin.succ_lt_succ_iff.1 hj)

theorem lasting_cons :
    lasting (d :: ds) = if outlasts ds d then d :: lasting ds else lasting ds := by
  have hplaces : List.finRange (d :: ds).length = 0 :: (List.finRange ds.length).map Fin.succ :=
    List.finRange_succ
  have hbehind : (((List.finRange ds.length).map Fin.succ).filter (IsLast (d :: ds) ·)).map
      (d :: ds).get = lasting ds := by
    rw [List.filter_map, List.map_map, lasting]
    congr 1
    exact List.filter_congr fun i _ => by simp [isLast_succ_iff]
  rw [lasting, hplaces, List.filter_cons]
  by_cases h : outlasts ds d = true
  · rw [if_pos h, if_pos (by simpa using isLast_zero_iff.2 h), List.map_cons, hbehind]
    rfl
  · rw [if_neg h, if_neg (by simpa using mt isLast_zero_iff.1 h), hbehind]

/-- What lasts of the first of two lists are those descriptors that the second does not replace. -/
theorem lasting_append (as bs : List Descriptor) :
    lasting (as ++ bs) = (lasting as).filter (outlasts bs) ++ lasting bs := by
  induction as with
  | nil => rfl
  | cons d rest ih =>
    have hboth : outlasts (rest ++ bs) d = (outlasts rest d && outlasts bs d) := List.all_append
    rw [List.cons_append, lasting_cons, lasting_cons, hboth, ih]
    cases outlasts rest d with
    | false => rfl
    | true => cases hlater : outlasts bs d <;> simp [hlater]

theorem lasting_of_nodup (h : (ds.map (·.qualifiedName)).Nodup) : lasting ds = ds := by
  have hlast : ∀ i, IsLast ds i := fun i j hij =>
    (List.pairwise_iff_get.1 (List.pairwise_map.1 h) i j hij).symm
  rw [lasting, List.filter_eq_self.2 fun i _ => decide_eq_true (hlast i), List.map_get_finRange]

theorem pairwise_lasting : (lasting ds).Pairwise (LastsBefore ds) := by
  refine List.pairwise_map.2 (((List.pairwise_lt_finRange _).filter _).imp_of_mem ?_)
  intro i j hi hj hij
  have hi' : IsLast ds i := of_decide_eq_true (List.mem_filter.1 hi).2
  have hj' : IsLast ds j := of_decide_eq_true (List.mem_filter.1 hj).2
  exact ⟨i, j, hij, ⟨hi', rfl⟩, hj', rfl⟩

/-! ## The roll -/

/-- One more descriptor on a roll that holds what lasts of those so far. -/
theorem entries_renew {roll : Roll} (h : roll.entries = lasting ds) (d : Descriptor) :
    (roll.renew d).entries = lasting (ds ++ [d]) := by
  rw [Roll.entries_renew, h, lasting_append]
  congr 1
  exact List.filter_congr fun e _ => by simp [outlasts, bne_comm]

theorem entries_foldl_renew {roll : Roll} (h : roll.entries = lasting ds)
    (later : List Descriptor) :
    (later.foldl Roll.renew roll).entries = lasting (ds ++ later) := by
  -- on what is still to come; what was entered so far grows with the roll
  induction later generalizing roll ds with
  | nil => rw [List.append_nil, List.foldl_nil, h]
  | cons d rest ih =>
    rw [List.foldl_cons, ih (entries_renew h d), List.append_assoc]
    rfl

theorem dedupe_eq_lasting (ds : List Descriptor) : dedupe ds = lasting ds := by
  have hempty : ({} : Roll).entries = lasting [] := rfl
  exact entries_foldl_renew hempty ds

/-! ## What is left -/

theorem mem_of_mem_dedupe (h : d ∈ dedupe ds) : d ∈ ds := by
  rw [dedupe_eq_lasting, lasting] at h
  obtain ⟨i, -, rfl⟩ := List.mem_map.1 h
  exact List.get_mem ds i

theorem map_qualifiedName_dedupe (ds : List Descriptor) :
    (dedupe ds).map (·.qualifiedName) = (ds.map (·.qualifiedName)).dedup := by
  rw [dedupe_eq_lasting]
  induction ds with
  | nil => rfl
  | cons d rest ih =>
    rw [lasting_cons, List.map_cons]
    by_cases hname : d.qualifiedName ∈ rest.map (·.qualifiedName)
    · rw [List.dedup_cons_of_mem hname, if_neg (by rwa [outlasts_iff, not_not]), ih]
    · rw [List.dedup_cons_of_notMem hname, if_pos (outlasts_iff.2 hname), List.map_cons, ih]

theorem exists_mem_dedupe (h : d ∈ ds) : ∃ e ∈ dedupe ds, e.qualifiedName = d.qualifiedName := by
  rw [← List.mem_map, map_qualifiedName_dedupe, List.mem_dedup]
  exact List.mem_map_of_mem h

theorem dedupe_append (as bs : List Descriptor) :
    dedupe (as ++ bs) = (dedupe as).filter (outlasts bs) ++ dedupe bs := by
  rw [dedupe_eq_lasting, dedupe_eq_lasting, dedupe_eq_lasting, lasting_append]

theorem nodup_dedupe (ds : List Descriptor) : ((dedupe ds).map (·.qualifiedName)).Nodup :=
  (ds.foldl Roll.renew {}).nodup

theorem dedupe_dedupe (ds : List Descriptor) : dedupe (dedupe ds) = dedupe ds := by
  rw [dedupe_eq_lasting (dedupe ds), lasting_of_nodup (nodup_dedupe ds)]

/-- Exactly those descriptors are left that have no later one of their qualified name. So their
names differ, they stand in the order of their last places, and what was replaced already makes no
difference to what is entered later. -/
theorem dedupe_keeps_last (as bs : List Descriptor) :
    dedupe as = lasting as ∧
      ((dedupe as).map (·.qualifiedName)).Nodup ∧
      (dedupe as).Pairwise (LastsBefore as) ∧
      dedupe (dedupe as) = dedupe as ∧
      dedupe (as ++ bs) = dedupe (dedupe as ++ bs) := by
  refine ⟨dedupe_eq_lasting as, nodup_dedupe as, ?_, dedupe_dedupe as, ?_⟩
  · rw [dedupe_eq_lasting]
    exact pairwise_lasting
  · rw [dedupe_append, dedupe_append, dedupe_dedupe]

example :
    let d (name : String) (count : Int) : Descriptor := ⟨name, "m", .boolean, true, count, default⟩
    (dedupe [d "m.f" 0, d "m.g" 1, d "m.f" 2]).map (·.parameterCount) = [1, 2] := by decide

end Registry

end Vetting
