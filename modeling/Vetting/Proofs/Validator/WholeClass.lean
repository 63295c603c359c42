import Mathlib.Data.List.Flatten
import Mathlib.Data.List.TakeWhile
import Vetting.Proofs.Validator.Walk
import Vetting.Validator.World

/-!
# Vetting.Proofs.Validator.WholeClass

What the walk makes of modules and classes that cannot be searched. A module that fails contributes
nothing. A class that fails is not taken back whole: what was found in it before the member that
fails stays. And where the fault of a class cannot be told, the rest of its module is lost with it.

* `Program.whole`: what a module would contribute if it and each of its classes were taken whole or
  not at all.
* `Program.FailsLate`: a class body with a tagged member before the first that fails.
* `Program.walk_takes_whole_iff`: the walk finds just that, module by module, exactly when it comes
  to no such class and loses no module.
-/

namespace Vetting

/-- Lists that are put together from parts, one part never longer than its counterpart, are the same
only part by part. -/
theorem flatMap_eq_iff_of_sublist {α β : Type} {f g : α → List β} {xs : List α}
    (h : ∀ x ∈ xs, (g x).Sublist (f x)) : xs.flatMap f = xs.flatMap g ↔ ∀ x ∈ xs, f x = g x := by
  induction xs with
  | nil => simp
  | cons x rest ih =>
    obtain ⟨hx, hrest⟩ := List.forall_mem_cons.1 h
    rw [List.flatMap_cons, List.flatMap_cons, List.forall_mem_cons, ← ih hrest]
    constructor
    · intro heq
      have hlength := congrArg List.length heq
      have hle := hx.length_le
      have hrestLe := (List.Sublist.flatMap_right rest hrest).length_le
      rw [List.length_append, List.length_append] at hlength
      exact List.append_inj heq (by omega)
    · rintro ⟨hfirst, hmore⟩
      rw [hfirst, hmore]

namespace Program

/-- Whether the tag of a thing can be read. -/
def isReadable (program : Program) (e : Entity) : Bool := (program.isTagged e).isOk

/-- Whether the tag of a thing can be read and is there. -/
def seesTag (program : Program) (e : Entity) : Bool :=
  match program.isTagged e with
  | .ok isTagged => isTagged
  | .error _ => false

/-- The tagged members of a class body in which each tag can be read. -/
def wholeBody (program : Program) (members : Names) : List Entity :=
  if members.all fun entry => program.isReadable entry.2 then
    (members.map (·.2)).filter program.seesTag
  else []

/-- What stands for validators where a thing stands in the module `home`: the members of a class of
the module, or the thing itself. -/
def wholeAt (program : Program) (home : String) : Entity → List Entity
  | .classRef number =>
    match program.classes[number]? with
    | some c => if c.home = home then program.wholeBody c.members else []
    | none => []
  | e => if program.seesTag e ∧ program.homeOf e.unwrap = some home then [e] else []

/-- What a module contributes if it can be searched. -/
def whole (program : Program) : ModuleSlot → List Entity
  | .module number =>
    match program.modules[number]? with
    | some m =>
      if m.members.all fun entry => program.isReadable entry.2 then
        m.members.flatMap fun entry => program.wholeAt m.name entry.2
      else []
    | none => []
  | .absent | .failing _ _ => []

/-- A class body that fails behind a tagged member. -/
def FailsLate (program : Program) (members : Names) : Prop :=
  ∃ before entry after, members = before ++ entry :: after ∧
    (∀ b ∈ before, program.isReadable b.2 = true) ∧ program.isReadable entry.2 = false ∧
    ∃ b ∈ before, program.seesTag b.2 = true

/-- What the walk comes to is taken whole or not at all: nothing that is no error is raised, a
module whose search breaks off has nothing to contribute, and in one whose search does not no class
of its own fails behind a tagged member. -/
def TakesWhole (program : Program) : ModuleSlot → Prop
  | .absent => True
  | .failing _ fault => fault.isError = true
  | .module number => ∀ m, program.modules[number]? = some m →
      (∀ fault, program.FirstBreak m.name m.members fault →
        fault.isError = true ∧ program.whole (.module number) = []) ∧
      ((∀ entry ∈ m.members, program.Keeps m.name entry.2) →
        ∀ name k c, (name, .classRef k) ∈ m.members → program.IsOwnClass m.name k c →
          ¬ program.FailsLate c.members)

variable {program : Program}

theorem isReadable_eq (program : Program) (e : Entity) :
    program.isReadable e = e.raised?.isNone := by
  rw [isReadable, isTagged_eq]
  cases e.raised? <;> rfl

theorem seesTag_eq_of_readable {e : Entity} (h : program.isReadable e = true) :
    program.seesTag e = program.isMarked e.unwrap := by
  rw [isReadable_eq, Option.isNone_iff_eq_none] at h
  rw [seesTag, isTagged_eq, h]

/-! ## Class bodies -/

theorem filter_seesTag {members : Names}
    (h : ∀ entry ∈ members, program.isReadable entry.2 = true) :
    ((members.map (·.2)).filter fun e => program.isMarked e.unwrap) =
      (members.map (·.2)).filter program.seesTag := by
  refine List.filter_congr fun e he => ?_
  obtain ⟨entry, hentry, rfl⟩ := List.mem_map.1 he
  exact (seesTag_eq_of_readable (h entry hentry)).symm

theorem taggedIn_of_readable {members : Names}
    (h : ∀ entry ∈ members, program.isReadable entry.2 = true) :
    (program.taggedIn members).1 = (members.map (·.2)).filter program.seesTag := by
  rw [taggedIn_eq, List.takeWhile_eq_self_iff.2 fun entry hentry =>
    (isReadable_eq program entry.2).symm.trans (h entry hentry)]
  exact filter_seesTag h

/-- What stands before the first member that fails is what is found. -/
theorem taggedIn_of_failing {before after : Names} {entry : String × Entity}
    (hbefore : ∀ b ∈ before, program.isReadable b.2 = true)
    (hentry : program.isReadable entry.2 = false) :
    (program.taggedIn (before ++ entry :: after)).1 =
      (before.map (·.2)).filter program.seesTag := by
  have htake : (before ++ entry :: after).takeWhile (fun entry => entry.2.raised?.isNone) =
      before := by
    rw [List.takeWhile_append_of_pos fun b hb =>
      (isReadable_eq program b.2).symm.trans (hbefore b hb)]
    rw [isReadable_eq] at hentry
    rw [List.takeWhile_cons_of_neg (by simp [hentry]), List.append_nil]
  rw [taggedIn_eq, htake]
  exact filter_seesTag hbefore

theorem wholeBody_of_readable {members : Names}
    (h : ∀ entry ∈ members, program.isReadable entry.2 = true) :
    program.wholeBody members = (members.map (·.2)).filter program.seesTag :=
  if_pos (List.all_eq_true.2 h)

theorem wholeBody_of_failing {members : Names} {entry : String × Entity} (hmem : entry ∈ members)
    (hentry : program.isReadable entry.2 = false) : program.wholeBody members = [] := by
  refine if_neg fun hall => ?_
  rw [List.all_eq_true.1 hall entry hmem] at hentry
  cases hentry

theorem readable_or_failing (program : Program) (members : Names) :
    (∀ entry ∈ members, program.isReadable entry.2 = true) ∨
      ∃ before entry after, members = before ++ entry :: after ∧
        (∀ b ∈ before, program.isReadable b.2 = true) ∧ program.isReadable entry.2 = false := by
  cases hfind : members.find? fun entry => !program.isReadable entry.2 with
  | none =>
    refine .inl fun entry hentry => ?_
    simpa using List.find?_eq_none.1 hfind entry hentry
  | some entry =>
    obtain ⟨hentry, before, after, hsplit, hbefore⟩ := List.find?_eq_some_iff_append.1 hfind
    exact .inr ⟨before, entry, after, hsplit, fun b hb => by simpa using hbefore b hb,
      by simpa using hentry⟩

/-- A class is taken whole or not at all exactly when it does not fail behind a tagged member. -/
theorem taggedIn_eq_wholeBody_iff {members : Names} :
    (program.taggedIn members).1 = program.wholeBody members ↔ ¬ program.FailsLate members := by
  constructor
  · rintro heq ⟨before, entry, after, rfl, hbefore, hentry, b, hb, htag⟩
    rw [taggedIn_of_failing hbefore hentry, wholeBody_of_failing (by simp) hentry,
      List.filter_eq_nil_iff] at heq
    exact heq b.2 (List.mem_map.2 ⟨b, hb, rfl⟩) htag
  · intro hlate
    rcases readable_or_failing program members with
      hall | ⟨before, entry, after, rfl, hbefore, hentry⟩
    · rw [taggedIn_of_readable hall, wholeBody_of_readable hall]
    · rw [taggedIn_of_failing hbefore hentry, wholeBody_of_failing (by simp) hentry,
        List.filter_eq_nil_iff]
      intro e he htag
      obtain ⟨b, hb, rfl⟩ := List.mem_map.1 he
      exact hlate ⟨before, entry, after, rfl, hbefore, hentry, b, hb, htag⟩

theorem wholeBody_sublist (program : Program) (members : Names) :
    (program.wholeBody members).Sublist (program.taggedIn members).1 := by
  rcases readable_or_failing program members with
    hall | ⟨before, entry, after, rfl, hbefore, hentry⟩
  · have hsame : program.wholeBody members = (program.taggedIn members).1 := by
      rw [taggedIn_of_readable hall, wholeBody_of_readable hall]
    exact hsame ▸ List.Sublist.refl _
  · rw [wholeBody_of_failing (by simp) hentry]
    exact List.nil_sublist _

/-! ## Modules -/

section

variable {home : String} {number : Nat} {c : Class} {e : Entity}

theorem wholeAt_of_ownClass (h : program.IsOwnClass home number c) :
    program.wholeAt home (.classRef number) = program.wholeBody c.members := by
  simp [wholeAt, h.isClass, h.home_eq]

/-- At a thing that is no class of the module its search goes on only if its tag can be read. -/
theorem isReadable_of_keeps (h : program.Keeps home e) : program.isReadable e = true := by
  by_cases hclass : ∃ number, e = .classRef number
  · obtain ⟨number, rfl⟩ := hclass
    rfl
  · rw [isReadable_eq, Option.isNone_iff_eq_none]
    cases hraised : e.raised? with
    | none => rfl
    | some fault => exact absurd (.tag (fun number he => hclass ⟨number, he⟩) hraised) (h fault)

/-- Classes of the module apart, the walk takes a thing as it should. -/
theorem foundAt_eq_wholeAt (hkeeps : program.Keeps home e)
    (h : ∀ number c, e = .classRef number → ¬ program.IsOwnClass home number c) :
    program.foundAt home e = program.wholeAt home e := by
  have hreadable := isReadable_of_keeps hkeeps
  cases e with
  | classRef number =>
    cases hc : program.classes[number]? with
    | none =>
      have hempty : (program.taggedIn (default : Class).members).1 = [] := rfl
      simp [foundAt, wholeAt, hc, hempty]
    | some c =>
      have hhome : c.home ≠ home := fun hhome => h number c rfl ⟨hc, hhome⟩
      simp [foundAt, wholeAt, hc, hhome]
  | _ => simp [foundAt, wholeAt, seesTag_eq_of_readable hreadable]

theorem foundAt_eq_wholeAt_iff (hkeeps : program.Keeps home e) :
    program.foundAt home e = program.wholeAt home e ↔
      ∀ number c, e = .classRef number → program.IsOwnClass home number c →
        ¬ program.FailsLate c.members := by
  constructor
  · rintro heq number c rfl hown
    rwa [foundAt_of_ownClass hown, wholeAt_of_ownClass hown, taggedIn_eq_wholeBody_iff] at heq
  · intro h
    by_cases hclass : ∃ number c, e = .classRef number ∧ program.IsOwnClass home number c
    · obtain ⟨number, c, rfl, hown⟩ := hclass
      rw [foundAt_of_ownClass hown, wholeAt_of_ownClass hown, taggedIn_eq_wholeBody_iff]
      exact h number c rfl hown
    · exact foundAt_eq_wholeAt hkeeps fun number c he hown => hclass ⟨number, c, he, hown⟩

theorem wholeAt_sublist (hkeeps : program.Keeps home e) :
    (program.wholeAt home e).Sublist (program.foundAt home e) := by
  by_cases hclass : ∃ number c, e = .classRef number ∧ program.IsOwnClass home number c
  · obtain ⟨number, c, rfl, hown⟩ := hclass
    rw [foundAt_of_ownClass hown, wholeAt_of_ownClass hown]
    exact wholeBody_sublist program c.members
  · have hsame : program.foundAt home e = program.wholeAt home e :=
      foundAt_eq_wholeAt hkeeps fun number c he hown => hclass ⟨number, c, he, hown⟩
    exact hsame ▸ List.Sublist.refl _

end

variable {m : ValidatorModule} {number : Nat} {slot : ModuleSlot} {slots : List ModuleSlot}

/-- A module whose search goes on to its end is taken whole exactly when each of its classes is. -/
theorem found_eq_whole_iff (hm : program.modules[number]? = some m)
    (hkeeps : ∀ entry ∈ m.members, program.Keeps m.name entry.2) :
    program.found (.module number) = program.whole (.module number) ↔
      ∀ name k c, (name, .classRef k) ∈ m.members → program.IsOwnClass m.name k c →
        ¬ program.FailsLate c.members := by
  have hwhole : program.whole (.module number) =
      m.members.flatMap fun entry => program.wholeAt m.name entry.2 := by
    simp only [whole, hm]
    exact if_pos (List.all_eq_true.2 fun entry hentry => isReadable_of_keeps (hkeeps entry hentry))
  rw [found_of_keeps hm hkeeps, hwhole,
    flatMap_eq_iff_of_sublist fun entry hentry => wholeAt_sublist (hkeeps entry hentry)]
  constructor
  · intro h name k c hmem hown
    exact (foundAt_eq_wholeAt_iff (hkeeps _ hmem)).1 (h _ hmem) k c rfl hown
  · rintro h ⟨name, e⟩ hmem
    refine (foundAt_eq_wholeAt_iff (hkeeps _ hmem)).2 ?_
    rintro k c rfl hown
    exact h name k c hmem hown

theorem takesWhole_iff :
    program.TakesWhole slot ↔
      (∀ fault, ¬ program.Leaves slot fault) ∧ program.found slot = program.whole slot := by
  cases slot with
  | absent => exact iff_of_true trivial ⟨nofun, rfl⟩
  | failing shown fault =>
    have hfound : program.found (.failing shown fault) = program.whole (.failing shown fault) := rfl
    simp only [TakesWhole, Leaves, searchSlot, hfound, and_true, Except.error.injEq]
    constructor
    · rintro herror other ⟨rfl, hexit⟩
      cases herror.symm.trans hexit
    · intro h
      simpa using h fault
  | module number =>
    cases hm : program.modules[number]? with
    | none =>
      have hsearch : (program.searchSlot (.module number)).2 = .ok ([], []) := by
        rw [searchSlot, hm]
        rfl
      refine iff_of_true (fun m h => ?_) ⟨fun fault h => ?_, by simp [found, hsearch, whole, hm]⟩
      · cases hm.symm.trans h
      · cases hsearch.symm.trans h.1
    | some m =>
      have hone : program.TakesWhole (.module number) ↔
          (∀ fault, program.FirstBreak m.name m.members fault →
            fault.isError = true ∧ program.whole (.module number) = []) ∧
          ((∀ entry ∈ m.members, program.Keeps m.name entry.2) →
            ∀ name k c, (name, .classRef k) ∈ m.members → program.IsOwnClass m.name k c →
              ¬ program.FailsLate c.members) := by
        simp only [TakesWhole, hm, Option.some.injEq, forall_eq']
      simp only [hone, leaves_module_iff hm]
      rcases program.keeps_or_firstBreak m.name m.members with hkeeps | ⟨fault, hbreak⟩
      · have hnone : ∀ fault, ¬ program.FirstBreak m.name m.members fault := by
          rintro fault ⟨before, entry, after, hsplit, -, hbreaks⟩
          exact hkeeps entry (by simp [hsplit]) fault hbreaks
        rw [found_eq_whole_iff hm hkeeps]
        exact ⟨fun h => ⟨fun fault hbreak => hnone fault hbreak.1, h.2 hkeeps⟩,
          fun h => ⟨fun fault hbreak => absurd hbreak (hnone fault), fun _ => h.2⟩⟩
      · have hbroken : ¬ ∀ entry ∈ m.members, program.Keeps m.name entry.2 := by
          obtain ⟨before, entry, after, hsplit, -, hbreaks⟩ := hbreak
          exact fun h => h entry (by simp [hsplit]) fault hbreaks
        rw [found_of_firstBreak hm hbreak]
        constructor
        · rintro ⟨hends, -⟩
          refine ⟨?_, (hends fault hbreak).2.symm⟩
          rintro other ⟨hother, hexit⟩
          cases (hends other hother).1.symm.trans hexit
        · rintro ⟨hstays, hnothing⟩
          refine ⟨fun other hother => ⟨?_, hnothing.symm⟩, fun h => absurd h hbroken⟩
          simpa [hother] using hstays other

/-- The walk finds the tagged members of the modules and of their classes, each module and each
class whole or not at all, exactly when it takes each module so. -/
theorem walk_takes_whole_iff (program : Program) (slots : List ModuleSlot) (world : World) :
    ((∀ slot ∈ slots,
          ((program.walkModule slot).run world).result = .ok (program.whole slot)) ∧
        ((program.walk slots).run world).result = .ok (slots.flatMap program.whole)) ↔
      ∀ slot ∈ slots, program.TakesWhole slot := by
  simp only [takesWhole_iff]
  constructor
  · rintro ⟨hparts, -⟩ slot hslot
    have hresult := hparts slot hslot
    have hstays : ∀ fault, ¬ program.Leaves slot fault := by
      intro fault hleaves
      rw [run_walkModule_of_leaves hleaves] at hresult
      cases hresult
    obtain ⟨journal, hrun, -⟩ := run_walkModule_of_stays hstays world
    rw [hrun] at hresult
    exact ⟨hstays, Except.ok.inj hresult⟩
  · intro h
    refine ⟨fun slot hslot => ?_, ?_⟩
    · obtain ⟨journal, hrun, -⟩ := run_walkModule_of_stays (h slot hslot).1 world
      rw [hrun, (h slot hslot).2]
    · obtain ⟨journal, hrun, -⟩ := run_walk_of_stays (fun slot hslot => (h slot hslot).1) world
      have hsame : slots.map program.found = slots.map program.whole :=
        List.map_congr_left fun slot hslot => (h slot hslot).2
      rw [hrun, List.flatMap_def, List.flatMap_def, hsame]

/-- A program of a class `C` in a module `m`, and a function `m.C.f` that is tagged. -/
def ofMembers (members : Names) : Program where
  functions := #[{ home := "m", qualname := "C.f", isTagged := true, body := .script 0
                   moduleNumber := 0 }]
  classes := #[{ home := "m", qualname := "C", members }]
  modules := #[⟨"m", [("C", .classRef 0)]⟩]
  loaded := [("m", 0)]

/-- A class with a tagged function and a hostile thing behind it. -/
def halfSearched : Program :=
  ofMembers [("f", .static (.function 0)), ("odd", .hostile (.withText "RuntimeError" "no"))]

theorem walk_halfSearched :
    ((halfSearched.walk [.module 0]).run { workspace := { tree := ⟨[], []⟩ } : World }).result ≠
      .ok ([ModuleSlot.module 0].flatMap halfSearched.whole) := by
  have hwalk : ((halfSearched.walk [.module 0]).run
      { workspace := { tree := ⟨[], []⟩ } : World }).result = .ok [.static (.function 0)] := rfl
  have hwhole : [ModuleSlot.module 0].flatMap halfSearched.whole = [] := rfl
  rw [hwalk, hwhole]
  nofun

end Program

end Vetting
