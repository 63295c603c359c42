import Mathlib.Data.List.Lex
import Mathlib.Order.Lattice
import Vetting.FileTree

/-!
# Vetting.Proofs.FileTree

The order of paths, and what is listed below a directory.

* `Path.precedes_iff`: the parts of paths are in the order of lists of the numbers of their
  characters.
* `FileTree.mem_listBelow_iff`: below a path is listed each entry that stands below the location
  that the path leads to.
* `FileTree.pairwise_listBelow`: the list is in the order of paths.
-/

namespace Vetting

section

variable {α : Type} [LinearOrder α] {a b : α} {as bs : List α}

theorem nil_le_list : [] ≤ as := not_lt.1 (List.not_lt_nil as)

/-- The first place in which lists differ puts them in order. -/
theorem cons_le_cons_iff_lt_or_eq : a :: as ≤ b :: bs ↔ a < b ∨ a = b ∧ as ≤ bs := by
  rw [le_iff_lt_or_eq, List.cons_lt_cons_iff, le_iff_lt_or_eq, List.cons.injEq, or_assoc,
    ← and_or_left]

theorem append_le_append_left (front : List α) (h : as ≤ bs) : front ++ as ≤ front ++ bs := by
  induction front with
  | nil => exact h
  | cons c front ih => exact List.cons_le_cons c ih

end

/-- A comparison of lists that goes by the first place in which they differ, and there by keys, is
the order of the lists of their keys. -/
theorem le_map_iff_of_first_difference {α β : Type} [DecidableEq α] [LinearOrder β] {key : α → β}
    {compare : List α → List α → Bool} {less : α → α → Bool} (hkey : Function.Injective key)
    (hless : ∀ {a b}, a ≠ b → (less a b = true ↔ key a < key b))
    (hnil : ∀ bs, compare [] bs = true) (hend : ∀ a as, compare (a :: as) [] = false)
    (hcons : ∀ a as b bs, compare (a :: as) (b :: bs) = if a = b then compare as bs else less a b)
    {as bs : List α} : compare as bs = true ↔ as.map key ≤ bs.map key := by
  induction as generalizing bs with
  | nil => exact ⟨fun _ => nil_le_list, fun _ => hnil bs⟩
  | cons a as ih =>
    cases bs with
    | nil => simp [hend]
    | cons b bs =>
      rw [hcons, List.map_cons, List.map_cons, cons_le_cons_iff_lt_or_eq]
      by_cases hab : a = b
      · subst hab
        rw [if_pos rfl, ih]
        simp
      · rw [if_neg hab, hless hab, or_iff_left fun h => hab (hkey h.1)]

namespace Text

/-- Texts are in the order of lists of numbers. -/
theorem precedes_iff {a b : List Char} :
    precedes a b = true ↔ a.map Char.toNat ≤ b.map Char.toNat :=
  le_map_iff_of_first_difference (fun _ _ => Char.toNat_inj.1) (fun _ => decide_eq_true_iff)
    (fun _ => rfl) (fun _ _ => rfl) fun _ _ _ _ => rfl

end Text

namespace Path

/-- The numbers of the characters in a part. -/
def codes (part : String) : List Nat := part.toList.map Char.toNat

/-- What paths from one start are put in order by. -/
def sortKey (path : Path) : List (List Nat) := path.parts.map codes

theorem codes_injective : Function.Injective codes := by
  intro a b h
  exact String.toList_inj.1 (List.map_injective_iff.2 (fun _ _ => Char.toNat_inj.1) h)

/-- Parts of paths are in the order of lists of lists of numbers. -/
theorem precedes_iff {as bs : List String} :
    precedes as bs = true ↔ as.map codes ≤ bs.map codes := by
  have hless : ∀ {a b : String}, a ≠ b →
      (Text.precedes a.toList b.toList = true ↔ codes a < codes b) := fun hab =>
    Text.precedes_iff.trans
      ⟨fun h => lt_of_le_of_ne h fun heq => hab (codes_injective heq), le_of_lt⟩
  exact le_map_iff_of_first_difference codes_injective hless (fun _ => rfl) (fun _ _ => rfl)
    fun _ _ _ _ => rfl

theorem precedes_trans (as bs cs : List String) (hab : precedes as bs = true)
    (hbc : precedes bs cs = true) : precedes as cs = true :=
  precedes_iff.2 (le_trans (precedes_iff.1 hab) (precedes_iff.1 hbc))

theorem precedes_total (as bs : List String) : (precedes as bs || precedes bs as) = true := by
  rw [Bool.or_eq_true, precedes_iff, precedes_iff]
  exact le_total _ _

/-- Below one path, the order is that of what leads on from there. -/
theorem sortKey_below_le {root : Path} {as bs : List String} (h : precedes as bs = true) :
    (root.below as).sortKey ≤ (root.below bs).sortKey := by
  simp only [sortKey, below, List.map_append]
  exact append_le_append_left _ (precedes_iff.1 h)

end Path

namespace FileTree

/-- An entry stands below where `path` leads, and `parts` lead to it from there. -/
def IsBelow (tree : FileTree) (path : Path) (parts : List String) : Prop :=
  ∃ location entry, tree.locate path = .ok location ∧ parts ≠ [] ∧
    (location ++ parts, entry) ∈ tree.entries

variable {tree : FileTree} {path : Path} {parts : List String}

theorem mem_listBelow_iff : parts ∈ tree.listBelow path ↔ tree.IsBelow path parts := by
  unfold listBelow IsBelow
  cases hlocate : tree.locate path with
  | error trouble => simp
  | ok location =>
    simp only [List.mem_mergeSort, List.mem_filterMap, Option.ite_none_right_eq_some,
      Option.some.injEq, Bool.and_eq_true, List.isPrefixOf_iff_prefix, bne_iff_ne]
    constructor
    · rintro ⟨⟨place, entry⟩, hmem, ⟨⟨rest, rfl⟩, hne⟩, rfl⟩
      refine ⟨location, entry, rfl, ?_, ?_⟩
      · rintro hnil
        rw [List.drop_left] at hnil
        exact hne (by simp [hnil])
      · rwa [List.drop_left]
    · rintro ⟨_, entry, ⟨⟩, hparts, hmem⟩
      refine ⟨(location ++ parts, entry), hmem, ⟨List.prefix_append .., ?_⟩, List.drop_left⟩
      simpa using hparts

theorem pairwise_listBelow (tree : FileTree) (path : Path) :
    (tree.listBelow path).Pairwise fun as bs => Path.precedes as bs = true := by
  unfold listBelow
  split
  · exact .nil
  · exact List.pairwise_mergeSort Path.precedes_trans Path.precedes_total _

/-- A path that leads to a file leads somewhere. -/
theorem contains_of_isFile (h : tree.isFile path = true) : tree.contains path = true := by
  unfold isFile at h
  unfold contains
  split at h
  · simp [*]
  · cases h

theorem overlong?_eq_none_iff :
    tree.overlong? path = none ↔ tree.locate path ≠ .error .tooLong := by
  unfold overlong?
  split
  · simp [*]
  · simp_all

end FileTree

end Vetting
