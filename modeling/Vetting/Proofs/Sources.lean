import Mathlib.Data.List.Forall2
import Vetting.Proofs.FileTree
import Vetting.Proofs.Text.Line
import Vetting.Sources

/-!
# Vetting.Proofs.Sources

Which files are found below some roots. A file is found once, however many paths lead to it; it is
found exactly if one of the paths that the roots offer leads to it under a name with one of the
suffixes; and the order of the roots is of no account to which files these are.

* `Sources.Offers`, `Sources.Wanted`: what a root offers, and which files are to be found.
* `Sources.Picks`: how a list of paths is gone through, with what was seen before and after.
* `Sources.Listed`: all that is wanted is found, nothing else, and nothing twice.
* `Sources.listed_iff`: that is so exactly when no path that is asked about is too long.
-/

namespace Vetting

namespace Sources

/-- A name that ends in one of the suffixes, whatever the case. -/
def EndsInOne (suffixes : List String) (name : String) : Prop :=
  ∃ suffix ∈ suffixes, (Text.lower suffix).toList <:+ (Text.lower name).toList

/-- A root offers itself if it is a file, and all that stands below it if it is anything else. -/
inductive Offers (tree : FileTree) (root : Path) : Path → Prop where
  | self : tree.isFile root = true → Offers tree root root
  | entry {parts : List String} : tree.contains root = true → tree.isFile root = false →
      tree.IsBelow root parts → Offers tree root (root.below parts)

/-- A path leads to the file at `location`, and its own name ends in one of the suffixes. -/
structure Takes (tree : FileTree) (suffixes : List String) (path : Path) (location : Location) :
    Prop where
  isFile : tree.isFile path = true
  ending : EndsInOne suffixes path.name
  target : tree.locate path = .ok location

/-- A file that is to be found: one of the paths that the roots offer takes it. -/
def Wanted (tree : FileTree) (suffixes : List String) (roots : List Path) (location : Location) :
    Prop :=
  ∃ root ∈ roots, ∃ path, Offers tree root path ∧ Takes tree suffixes path location

/-- Neither a root nor a path that it offers is too long to be followed. -/
def Followable (tree : FileTree) (root : Path) : Prop :=
  tree.locate root ≠ .error .tooLong ∧
    ∀ path, Offers tree root path → tree.locate path ≠ .error .tooLong

/-- The paths of roots, relative ones below `base`. -/
def rootPaths (tree : FileTree) (base : Option String) (roots : List String) : List Path :=
  roots.map fun root => (baseOf tree base).under (Path.ofText root)

/-- Files for each of some roots: paths that the root offers, in their order, and among all of them
no two that lead to the same file. -/
structure Shares (tree : FileTree) (roots : List Path) (parts : List (List Path)) : Prop where
  offered : List.Forall₂ (fun root files => ∀ path ∈ files, Offers tree root path) roots parts
  sorted : ∀ files ∈ parts, files.Pairwise fun a b => a.sortKey ≤ b.sortKey
  once : (parts.flatten.map tree.locate).Nodup

/-- What a root with its files is come upon as. -/
def sightingsOf (tree : FileTree) (encoding : String) (root : Path) (files : List Path) :
    List Sighting :=
  if tree.contains root then files.map fun path => .source (ofPath tree encoding path)
  else [.missingRoot root.text]

/-- What roots with their files are come upon as. -/
def report (tree : FileTree) (encoding : String) (roots : List Path) (parts : List (List Path)) :
    List Sighting :=
  (List.zipWith (sightingsOf tree encoding) roots parts).flatten

/-- The roots in any order, and any of them more than once, give the files that are wanted, each
one once and for each root in the order of their paths. -/
def Listed (tree : FileTree) (roots suffixes : List String) (base : Option String)
    (encoding : String) : Prop :=
  ∀ again : List String, (∀ root, root ∈ again ↔ root ∈ roots) →
    ∃ parts, Shares tree (rootPaths tree base again) parts ∧
      enumerate tree again suffixes base encoding =
        report tree encoding (rootPaths tree base again) parts ∧
      ∀ location, (∃ path ∈ parts.flatten, tree.locate path = .ok location) ↔
        Wanted tree suffixes (rootPaths tree base roots) location

variable {tree : FileTree} {suffixes : List String} {encoding : String} {root path : Path}

theorem hasSuffix_iff {name : String} :
    hasSuffix suffixes name = true ↔ EndsInOne suffixes name := by
  simp only [hasSuffix, List.any_eq_true, Text.endsWith_iff, EndsInOne]

/-! ## What a root offers -/

/-- The paths that a root offers, none if it is not there. -/
def offered (tree : FileTree) (root : Path) : List Path :=
  if tree.contains root then candidates tree root else []

theorem mem_offered_iff : path ∈ offered tree root ↔ Offers tree root path := by
  unfold offered candidates
  constructor
  · intro hpath
    split at hpath
    · next hroot =>
      split at hpath
      · next hfile =>
        obtain rfl := List.mem_singleton.1 hpath
        exact .self hfile
      · next hfile =>
        obtain ⟨parts, hparts, rfl⟩ := List.mem_map.1 hpath
        exact .entry hroot (Bool.eq_false_iff.2 hfile) (FileTree.mem_listBelow_iff.1 hparts)
    · cases hpath
  · intro hpath
    cases hpath with
    | self hfile => simp [FileTree.contains_of_isFile hfile, hfile]
    | entry hroot hfile hbelow =>
      simp only [hroot, hfile, if_true, Bool.false_eq_true, if_false]
      exact List.mem_map_of_mem (FileTree.mem_listBelow_iff.2 hbelow)

theorem pairwise_offered (tree : FileTree) (root : Path) :
    (offered tree root).Pairwise fun a b => a.sortKey ≤ b.sortKey := by
  unfold offered candidates
  split
  · split
    · exact List.pairwise_singleton ..
    · exact (FileTree.pairwise_listBelow tree root).map _ fun _ _ => Path.sortKey_below_le
  · exact .nil

/-! ## Going through paths -/

/-- Paths are gone through after the locations in `seen`: a path that takes a new file is picked and
its file is seen from then on, and any other path is passed. -/
inductive Picks (tree : FileTree) (suffixes : List String) :
    (seen : List Location) → List Path → (after : List Location) → (picked : List Path) → Prop where
  | nil {seen : List Location} : Picks tree suffixes seen [] seen []
  | new {seen after : List Location} {path : Path} {location : Location} {rest more : List Path} :
      Takes tree suffixes path location → location ∉ seen →
      Picks tree suffixes (location :: seen) rest after more →
      Picks tree suffixes seen (path :: rest) after (path :: more)
  | passed {seen after : List Location} {path : Path} {rest more : List Path} :
      (∀ location, Takes tree suffixes path location → location ∈ seen) →
      Picks tree suffixes seen rest after more →
      Picks tree suffixes seen (path :: rest) after more

theorem picks_unseen (tree : FileTree) (suffixes : List String) (seen : List Location)
    (paths : List Path) :
    Picks tree suffixes seen paths (unseen tree suffixes seen paths).1
      (unseen tree suffixes seen paths).2 := by
  induction paths generalizing seen with
  | nil => exact .nil
  | cons path rest ih =>
    unfold unseen
    split
    · next trouble hlocate =>
      refine .passed (fun location h => ?_) (ih seen)
      cases hlocate.symm.trans h.target
    · next location hlocate =>
      split
      · next htaken =>
        simp only [Bool.and_eq_true, Bool.not_eq_true', List.contains_eq_mem,
          decide_eq_false_iff_not, hasSuffix_iff] at htaken
        obtain ⟨⟨hfile, hending⟩, hnew⟩ := htaken
        exact .new ⟨hfile, hending, hlocate⟩ hnew (ih _)
      · next hpassed =>
        refine .passed (fun other h => ?_) (ih seen)
        obtain rfl : location = other := Except.ok.inj (hlocate.symm.trans h.target)
        by_contra hnew
        exact hpassed (by simp [h.isFile, hasSuffix_iff.2 h.ending, hnew])

namespace Picks

variable {seen after last : List Location} {paths more picked found : List Path}

theorem append (h : Picks tree suffixes seen paths after picked)
    (hmore : Picks tree suffixes after more last found) :
    Picks tree suffixes seen (paths ++ more) last (picked ++ found) := by
  induction h with
  | nil => exact hmore
  | new htakes hnew _ ih => exact .new htakes hnew (ih hmore)
  | passed hpassed _ ih => exact .passed hpassed (ih hmore)

theorem sublist (h : Picks tree suffixes seen paths after picked) : picked.Sublist paths := by
  induction h with
  | nil => exact .slnil
  | new _ _ _ ih => exact ih.cons_cons _
  | passed _ _ ih => exact ih.cons _

/-- What is picked was not seen before. -/
theorem exists_new (h : Picks tree suffixes seen paths after picked) (hpath : path ∈ picked) :
    ∃ location, Takes tree suffixes path location ∧ location ∉ seen := by
  induction h with
  | nil => cases hpath
  | new htakes hnew _ ih =>
    rcases List.mem_cons.1 hpath with rfl | hpath
    · exact ⟨_, htakes, hnew⟩
    · obtain ⟨location, hother, hnotin⟩ := ih hpath
      exact ⟨location, hother, fun hin => hnotin (List.mem_cons_of_mem _ hin)⟩
  | passed _ _ ih => exact ih hpath

/-- No file is picked twice: one that was picked is seen from then on. -/
theorem nodup (h : Picks tree suffixes seen paths after picked) :
    (picked.map tree.locate).Nodup := by
  induction h with
  | nil => exact List.nodup_nil
  | @new seen after path location rest more htakes hnew hrest ih =>
    refine List.nodup_cons.2 ⟨fun hin => ?_, ih⟩
    obtain ⟨other, hother, heq⟩ := List.mem_map.1 hin
    -- A later pick that leads to the same file would be one that was not seen before.
    obtain ⟨place, hplace, hunseen⟩ := hrest.exists_new hother
    have hsame : place = location :=
      Except.ok.inj (hplace.target.symm.trans (heq.trans htakes.target))
    exact hunseen (hsame ▸ List.mem_cons_self ..)
  | passed _ _ ih => exact ih

/-- No file is left out: one that is not picked was seen. -/
theorem seen_or_picked (h : Picks tree suffixes seen paths after picked) (hpath : path ∈ paths)
    {location : Location} (htakes : Takes tree suffixes path location) :
    location ∈ seen ∨ ∃ other ∈ picked, tree.locate other = .ok location := by
  induction h with
  | nil => cases hpath
  | @new seen after first place rest more hfirst hnew _ ih =>
    rcases List.mem_cons.1 hpath with rfl | hpath
    · exact .inr ⟨path, List.mem_cons_self .., htakes.target⟩
    · rcases ih hpath with hseen | ⟨other, hother, hlocate⟩
      · rcases List.mem_cons.1 hseen with rfl | hseen
        · exact .inr ⟨first, List.mem_cons_self .., hfirst.target⟩
        · exact .inl hseen
      · exact .inr ⟨other, List.mem_cons_of_mem _ hother, hlocate⟩
  | passed hpassed _ ih =>
    rcases List.mem_cons.1 hpath with rfl | hpath
    · exact .inl (hpassed location htakes)
    · exact ih hpath

end Picks

/-! ## Visiting roots -/

theorem followable_iff :
    Followable tree root ↔
      tree.overlong? root = none ∧ ∀ path ∈ offered tree root, tree.overlong? path = none := by
  simp only [Followable, FileTree.overlong?_eq_none_iff, mem_offered_iff]

/-- A root whose paths can be followed gives its files, and the visit goes on. -/
theorem visit_cons_of_followable (h : Followable tree root) (seen : List Location)
    (rest : List Path) :
    visit tree suffixes encoding seen (root :: rest) =
      sightingsOf tree encoding root (unseen tree suffixes seen (offered tree root)).2 ++
        visit tree suffixes encoding (unseen tree suffixes seen (offered tree root)).1 rest := by
  obtain ⟨hroot, hpaths⟩ := followable_iff.1 h
  rw [visit, hroot]
  unfold sightingsOf
  by_cases hthere : tree.contains root = true
  · have hoffered : offered tree root = candidates tree root := if_pos hthere
    have hall : (candidates tree root).takeWhile (fun path => (tree.overlong? path).isNone) =
        candidates tree root := by
      refine List.takeWhile_eq_self_iff.2 fun path hpath => ?_
      rw [hpaths path (hoffered ▸ hpath)]
      rfl
    have hnone : (candidates tree root).findSome? tree.overlong? = none :=
      List.findSome?_eq_none_iff.2 fun path hpath => hpaths path (hoffered ▸ hpath)
    simp only [if_pos hthere, hall, hnone, hoffered]
  · have hoffered : offered tree root = [] := if_neg hthere
    simp only [if_neg hthere, hoffered, unseen]
    rfl

/-- A root with a path that cannot be followed ends the visit. -/
theorem exists_visit_cons_of_not_followable (h : ¬ Followable tree root) (seen : List Location)
    (rest : List Path) :
    ∃ found fault,
      visit tree suffixes encoding seen (root :: rest) = found ++ [.broken fault] := by
  rw [visit]
  cases hroot : tree.overlong? root with
  | some fault => exact ⟨[], fault, rfl⟩
  | none =>
    obtain ⟨path, hpath, hlong⟩ : ∃ path ∈ offered tree root, tree.overlong? path ≠ none := by
      by_contra hall
      push Not at hall
      exact h (followable_iff.2 ⟨hroot, hall⟩)
    have hthere : tree.contains root = true := by
      by_contra hmissing
      rw [offered, if_neg hmissing] at hpath
      cases hpath
    rw [offered, if_pos hthere] at hpath
    cases hfind : (candidates tree root).findSome? tree.overlong? with
    | none => exact absurd (List.findSome?_eq_none_iff.1 hfind path hpath) hlong
    | some fault =>
      simp only [if_pos hthere, hfind]
      exact ⟨_, fault, rfl⟩

theorem exists_broken_visit {roots : List Path} (h : ∃ root ∈ roots, ¬ Followable tree root)
    (seen : List Location) :
    ∃ found fault, visit tree suffixes encoding seen roots = found ++ [.broken fault] := by
  induction roots generalizing seen with
  | nil =>
    obtain ⟨_, hroot, _⟩ := h
    cases hroot
  | cons root rest ih =>
    by_cases hfollow : Followable tree root
    · obtain ⟨other, hother, hbad⟩ := h
      have hrest : ∃ root ∈ rest, ¬ Followable tree root := by
        rcases List.mem_cons.1 hother with rfl | hother
        · exact absurd hfollow hbad
        · exact ⟨other, hother, hbad⟩
      obtain ⟨found, fault, hvisit⟩ := ih hrest _
      rw [visit_cons_of_followable hfollow, hvisit, ← List.append_assoc]
      exact ⟨_, fault, rfl⟩
    · exact exists_visit_cons_of_not_followable hfollow seen rest

theorem broken_not_mem_report {fault : Fault} (roots : List Path) (parts : List (List Path)) :
    Sighting.broken fault ∉ report tree encoding roots parts := by
  intro hmem
  obtain ⟨sightings, hsightings, hmem⟩ := List.mem_flatten.1 hmem
  rw [← List.map_uncurry_zip_eq_zipWith] at hsightings
  obtain ⟨⟨root, files⟩, _, rfl⟩ := List.mem_map.1 hsightings
  unfold Function.uncurry sightingsOf at hmem
  split at hmem <;> simp at hmem

/-- Roots that can be followed give files one root after the other, as if the paths of all of them
were gone through at once. -/
theorem exists_parts (suffixes : List String) (encoding : String) {roots : List Path}
    (h : ∀ root ∈ roots, Followable tree root) (seen : List Location) :
    ∃ parts after, List.Forall₂ (fun root files => files.Sublist (offered tree root)) roots parts ∧
      visit tree suffixes encoding seen roots = report tree encoding roots parts ∧
      Picks tree suffixes seen (roots.flatMap (offered tree)) after parts.flatten := by
  induction roots generalizing seen with
  | nil => exact ⟨[], seen, .nil, rfl, .nil⟩
  | cons root rest ih =>
    obtain ⟨hroot, hrest⟩ := List.forall_mem_cons.1 h
    have hpicks := picks_unseen tree suffixes seen (offered tree root)
    -- The other roots are visited with what this one leaves as seen.
    obtain ⟨parts, after, hsub, hvisit, hmore⟩ :=
      ih hrest (unseen tree suffixes seen (offered tree root)).1
    refine ⟨_ :: parts, after, .cons hpicks.sublist hsub, ?_, hpicks.append hmore⟩
    rw [visit_cons_of_followable hroot, hvisit]
    rfl

theorem shares_of_picks {roots : List Path} {parts : List (List Path)} {after : List Location}
    (hsub : List.Forall₂ (fun root files => files.Sublist (offered tree root)) roots parts)
    (hpicks : Picks tree suffixes [] (roots.flatMap (offered tree)) after parts.flatten) :
    Shares tree roots parts where
  offered := by
    refine hsub.imp ?_
    intro root files hfiles path hpath
    exact mem_offered_iff.1 (hfiles.subset hpath)
  sorted := by
    intro files hfiles
    clear hpicks
    induction hsub with
    | nil => cases hfiles
    | @cons root first roots parts hfirst _ ih =>
      rcases List.mem_cons.1 hfiles with rfl | hfiles
      · exact (pairwise_offered tree root).sublist hfirst
      · exact ih hfiles
  once := hpicks.nodup

theorem mem_picked_iff_wanted {roots : List Path} {picked : List Path} {after : List Location}
    (h : Picks tree suffixes [] (roots.flatMap (offered tree)) after picked)
    (location : Location) :
    (∃ path ∈ picked, tree.locate path = .ok location) ↔
      Wanted tree suffixes roots location := by
  constructor
  · rintro ⟨path, hpath, hlocate⟩
    obtain ⟨place, htakes, _⟩ := h.exists_new hpath
    obtain rfl : place = location := Except.ok.inj (htakes.target.symm.trans hlocate)
    obtain ⟨root, hroot, hoffered⟩ := List.mem_flatMap.1 (h.sublist.subset hpath)
    exact ⟨root, hroot, path, mem_offered_iff.1 hoffered, htakes⟩
  · rintro ⟨root, hroot, path, hoffers, htakes⟩
    have hpath := List.mem_flatMap.2 ⟨root, hroot, mem_offered_iff.2 hoffers⟩
    exact (h.seen_or_picked hpath htakes).resolve_left List.not_mem_nil

theorem mem_rootPaths_congr {base : Option String} {again roots : List String}
    (h : ∀ root, root ∈ again ↔ root ∈ roots) (root : Path) :
    root ∈ rootPaths tree base again ↔ root ∈ rootPaths tree base roots := by
  simp only [rootPaths, List.mem_map, h]

theorem not_listed_of_not_followable {roots : List String} {base : Option String}
    (h : ∃ root ∈ rootPaths tree base roots, ¬ Followable tree root) :
    ¬ Listed tree roots suffixes base encoding := by
  intro hlisted
  obtain ⟨parts, -, henumerate, -⟩ := hlisted roots fun _ => Iff.rfl
  obtain ⟨found, fault, hbroken⟩ : ∃ found fault,
      enumerate tree roots suffixes base encoding = found ++ [.broken fault] :=
    exists_broken_visit h []
  have hmem : Sighting.broken fault ∈ report tree encoding (rootPaths tree base roots) parts := by
    rw [← henumerate, hbroken]
    exact List.mem_append_right _ (List.mem_singleton_self _)
  exact broken_not_mem_report _ _ hmem

/-- The files that are wanted are found, each once and in any order of the roots, exactly when
neither a root nor a path that a root offers is too long to be followed. -/
theorem listed_iff (tree : FileTree) (roots suffixes : List String) (base : Option String)
    (encoding : String) :
    Listed tree roots suffixes base encoding ↔
      ∀ root ∈ rootPaths tree base roots, Followable tree root := by
  constructor
  · intro hlisted
    by_contra hbad
    push Not at hbad
    exact not_listed_of_not_followable hbad hlisted
  · intro h again hagain
    have hfollow : ∀ root ∈ rootPaths tree base again, Followable tree root :=
      fun root hroot => h root ((mem_rootPaths_congr hagain root).1 hroot)
    obtain ⟨parts, after, hsub, hvisit, hpicks⟩ := exists_parts suffixes encoding hfollow []
    refine ⟨parts, shares_of_picks hsub hpicks, hvisit, fun location => ?_⟩
    rw [mem_picked_iff_wanted hpicks]
    simp only [Wanted, mem_rootPaths_congr hagain]

/-- A tree with one source in it. -/
def oneSource : FileTree := ⟨[], [(["a.cs"], .file [])]⟩

/-- A name that is one byte too long. -/
def longName : String := String.ofList (List.replicate 256 'n')

theorem toList_longName : longName.toList = List.replicate 256 'n' := String.toList_ofList

theorem rootPaths_longName :
    rootPaths oneSource none [longName, "a.cs"] = [⟨.root, [longName]⟩, ⟨.root, ["a.cs"]⟩] := by
  have hlong : Path.ofText longName = ⟨.here, [longName]⟩ := by
    rw [Path.ofText, toList_longName]
    decide +kernel
  have hshort : Path.ofText "a.cs" = ⟨.here, ["a.cs"]⟩ := by decide +kernel
  rw [rootPaths, List.map_cons, List.map_singleton, hlong, hshort]
  rfl

theorem locate_longName : oneSource.locate ⟨.root, [longName]⟩ = .error .tooLong := by
  have hnul : ([longName].any fun part => part.toList.contains (Char.ofNat 0)) = false := by
    rw [List.any_cons, toList_longName]
    decide +kernel
  have hsize : ¬ Path.maxSize < (Path.text ⟨.root, [longName]⟩).utf8ByteSize := by decide +kernel
  have hlong : Path.maxNameSize < longName.utf8ByteSize := by decide +kernel
  have hdots : longName ≠ "." ∧ longName ≠ ".." := by decide +kernel
  rw [FileTree.locate, hnul, if_neg Bool.false_ne_true, if_neg hsize, FileTree.follow]
  simp only [Path.isAbsolute, FileTree.at?, hlong, hdots.1, hdots.2, bne_iff_ne, ne_eq,
    reduceCtorEq, not_false_eq_true, if_true, if_false]

/-- A root that cannot be there is not passed over: the source behind it is not found. -/
theorem not_listed_longName :
    ¬ Listed oneSource [longName, "a.cs"] [".cs"] none "utf-8" := by
  refine not_listed_of_not_followable ⟨⟨.root, [longName]⟩, ?_, fun h => h.1 locate_longName⟩
  rw [rootPaths_longName]
  exact List.mem_cons_self ..

end Sources

end Vetting
