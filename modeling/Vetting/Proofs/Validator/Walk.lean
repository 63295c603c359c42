import Vetting.Proofs.Session
import Vetting.Validator.Registry

/-!
# Vetting.Proofs.Validator.Walk

What the walk through modules finds. In a module it meets what stands there and belongs to it, and
what stands in the bodies of its own classes. A hostile thing in a class body hides what stands
behind it. One in the module, and a class whose fault cannot be told, break off the search of the
module, and the module is skipped; what is no error ends the walk.

* `Program.Breaks`: what breaks off the search of a module, in terms of what stands there.
* `Program.walkNames_of_unbroken`, `Program.walkNames_of_breaks`: the search of a module.
* `Program.run_walk_of_stays`, `Program.run_walk_of_leaves`: the walk, which changes nothing and
  writes no warning.
* `Program.mem_found_iff`: the walk finds in a module what it meets and what is tagged.
-/

namespace Vetting

/-- What is raised where one asks whether a thing is tagged. -/
def Entity.raised? (e : Entity) : Option Fault :=
  match e.unwrap with
  | .hostile fault => some fault
  | _ => none

/-- The fault that ends the search of a class body. -/
def Names.raised? (names : Names) : Option Fault := names.findSome? fun entry => entry.2.raised?

namespace Program

variable {program : Program} {home : String}

theorem isTagged_eq (program : Program) (e : Entity) :
    program.isTagged e =
      match e.raised? with
      | some fault => .error fault
      | none => .ok (program.isMarked e.unwrap) := by
  rw [isTagged, Entity.raised?]
  cases e.unwrap <;> rfl

/-! ## Class bodies -/

/-- The search in a class body goes on until it comes to a hostile thing. -/
theorem taggedIn_eq (program : Program) (names : Names) :
    program.taggedIn names =
      (((names.takeWhile fun entry => entry.2.raised?.isNone).map (·.2)).filter fun e =>
        program.isMarked e.unwrap, names.raised?) := by
  induction names with
  | nil => rfl
  | cons entry rest ih =>
    obtain ⟨name, here⟩ := entry
    rw [taggedIn, isTagged_eq, Names.raised?, List.findSome?_cons]
    cases hraised : here.raised? with
    | some fault => simp [hraised]
    | none => simp [hraised, ih, Names.raised?, List.filter_cons]

theorem mem_taggedIn_iff {names : Names} {e : Entity} :
    e ∈ (program.taggedIn names).1 ↔
      (∃ name, (name, e) ∈ names.takeWhile fun entry => entry.2.raised?.isNone) ∧
        program.isMarked e.unwrap = true := by
  rw [taggedIn_eq, List.mem_filter, List.mem_map]
  refine and_congr_left fun _ => ⟨?_, ?_⟩
  · rintro ⟨⟨name, _⟩, hmem, rfl⟩
    exact ⟨name, hmem⟩
  · rintro ⟨name, hmem⟩
    exact ⟨_, hmem, rfl⟩

/-! ## What stands in a module -/

/-- A class of the module `home`. -/
structure IsOwnClass (program : Program) (home : String) (number : Nat) (c : Class) : Prop where
  isClass : program.classes[number]? = some c
  home_eq : c.home = home

/-- What breaks off the search of a module where a thing stands in it. -/
inductive Breaks (program : Program) (home : String) : Entity → Fault → Prop where
  /-- A thing that raises when it is asked for its tag. -/
  | tag {e : Entity} {fault : Fault} : (∀ number, e ≠ .classRef number) →
      e.raised? = some fault → Breaks program home e fault
  /-- A class in whose body what is no error is raised. -/
  | exit {number : Nat} {c : Class} {fault : Fault} : program.IsOwnClass home number c →
      c.members.raised? = some fault → fault.isError = false →
      Breaks program home (.classRef number) fault
  /-- A class in whose body an error is raised that cannot be told. -/
  | untold {number : Nat} {c : Class} {fault other : Fault} : program.IsOwnClass home number c →
      c.members.raised? = some fault → fault.isError = true → fault.said = .error other →
      Breaks program home (.classRef number) (.during fault other)

/-- A thing at which the search of a module goes on. -/
def Keeps (program : Program) (home : String) (e : Entity) : Prop :=
  ∀ fault, ¬ program.Breaks home e fault

/-- What the walk finds where a thing stands. -/
def foundAt (program : Program) (home : String) : Entity → List Entity
  | .classRef number =>
    let c := (program.classes[number]?).getD default
    if c.home == home then (program.taggedIn c.members).1 else []
  | e => if program.isMarked e.unwrap && program.homeOf e.unwrap == some home then [e] else []

section

variable {number : Nat} {c : Class} {e : Entity} {fault : Fault}

theorem searchNamed_of_ownClass (h : program.IsOwnClass home number c) :
    program.searchNamed home (.classRef number) = program.searchClass home c := by
  rw [searchNamed, h.isClass, Option.getD_some]

theorem searchClass_of_quiet (hhome : c.home = home) (h : c.members.raised? = none) :
    program.searchClass home c = .ok ((program.taggedIn c.members).1, []) := by
  simp [searchClass, hhome, taggedIn_eq, h]

theorem searchClass_of_raised (hhome : c.home = home) (h : c.members.raised? = some fault) :
    program.searchClass home c =
      (classError home c.qualname fault).map fun error =>
        ((program.taggedIn c.members).1, [error]) := by
  simp [searchClass, hhome, taggedIn_eq, h]

/-- A class of another module is passed over. -/
theorem searchNamed_of_otherClass (h : ∀ c, ¬ program.IsOwnClass home number c) :
    program.searchNamed home (.classRef number) =
        .ok (program.foundAt home (.classRef number), []) := by
  have hempty : program.taggedIn (default : Class).members = ([], none) := rfl
  cases hc : program.classes[number]? with
  | none => by_cases hhome : (default : Class).home = home <;>
      simp [searchNamed, foundAt, hc, searchClass, hempty, hhome]
  | some c =>
    have hhome : c.home ≠ home := fun hhome => h c ⟨hc, hhome⟩
    simp [searchNamed, foundAt, hc, searchClass, hhome]

theorem foundAt_of_ownClass (h : program.IsOwnClass home number c) :
    program.foundAt home (.classRef number) = (program.taggedIn c.members).1 := by
  simp [foundAt, h.isClass, h.home_eq]

theorem searchNamed_itself (hne : ∀ number, e ≠ .classRef number) :
    program.searchNamed home e =
      match e.raised? with
      | some fault => .error fault
      | none => .ok (program.foundAt home e, []) := by
  have hsearch : program.searchNamed home e = (program.isTagged e).map fun isTagged =>
      (if isTagged && program.homeOf e.unwrap == some home then [e] else [], []) := by
    cases e with
    | classRef number => exact absurd rfl (hne number)
    | _ => rfl
  have hfound : program.foundAt home e =
      if program.isMarked e.unwrap && program.homeOf e.unwrap == some home then [e] else [] := by
    cases e with
    | classRef number => exact absurd rfl (hne number)
    | _ => rfl
  rw [hsearch, hfound, isTagged_eq]
  cases e.raised? <;> rfl

/-- The search at one thing breaks off, or it finds what stands there. -/
theorem searchNamed_cases (program : Program) (home : String) (e : Entity) :
    (∃ fault, program.Breaks home e fault ∧ program.searchNamed home e = .error fault) ∨
      program.Keeps home e ∧
        ∃ errors, program.searchNamed home e = .ok (program.foundAt home e, errors) := by
  by_cases hclass : ∃ number, e = .classRef number
  · obtain ⟨number, rfl⟩ := hclass
    by_cases hown : ∃ c, program.IsOwnClass home number c
    · obtain ⟨c, hown⟩ := hown
      -- a class is the only one of its number, so it alone can break off the search
      have honly : ∀ c', program.IsOwnClass home number c' → c' = c := fun c' h =>
        Option.some.inj (h.isClass.symm.trans hown.isClass)
      rw [searchNamed_of_ownClass hown, foundAt_of_ownClass hown]
      cases hraised : c.members.raised? with
      | none =>
        refine .inr ⟨?_, [], searchClass_of_quiet hown.home_eq hraised⟩
        rintro fault (⟨hne, -⟩ | ⟨hown', h, -⟩ | ⟨hown', h, -, -⟩)
        · exact hne number rfl
        · obtain rfl := honly _ hown'
          cases hraised.symm.trans h
        · obtain rfl := honly _ hown'
          cases hraised.symm.trans h
      | some fault =>
        rw [searchClass_of_raised hown.home_eq hraised]
        cases herror : fault.isError with
        | false =>
          exact .inl ⟨fault, .exit hown hraised herror, by simp [classError, herror, Except.map]⟩
        | true =>
          cases hsaid : fault.said with
          | error other =>
            exact .inl ⟨_, .untold hown hraised herror hsaid,
              by simp [classError, herror, hsaid, Except.map]⟩
          | ok text =>
            refine .inr ⟨?_, _, by simp only [classError, herror, hsaid, if_true, Except.map]; rfl⟩
            rintro fault (⟨hne, -⟩ | ⟨hown', h, hexit⟩ | ⟨hown', h, -, huntold⟩)
            · exact hne number rfl
            · obtain rfl := honly _ hown'
              obtain rfl := Option.some.inj (hraised.symm.trans h)
              cases herror.symm.trans hexit
            · obtain rfl := honly _ hown'
              obtain rfl := Option.some.inj (hraised.symm.trans h)
              cases hsaid.symm.trans huntold
    · refine .inr ⟨?_, [], searchNamed_of_otherClass fun c h => hown ⟨c, h⟩⟩
      rintro fault (⟨hne, -⟩ | ⟨h, -, -⟩ | ⟨h, -, -, -⟩)
      · exact hne number rfl
      · exact hown ⟨_, h⟩
      · exact hown ⟨_, h⟩
  · have hne : ∀ number, e ≠ .classRef number := fun number h => hclass ⟨number, h⟩
    rw [searchNamed_itself hne]
    cases hraised : e.raised? with
    | some fault => exact .inl ⟨fault, .tag hne hraised, rfl⟩
    | none =>
      refine .inr ⟨?_, [], rfl⟩
      rintro fault (⟨-, h⟩ | ⟨-, -, -⟩ | ⟨-, -, -, -⟩)
      · cases hraised.symm.trans h
      · exact hne _ rfl
      · exact hne _ rfl

theorem searchNamed_of_keeps (h : program.Keeps home e) :
    ∃ errors, program.searchNamed home e = .ok (program.foundAt home e, errors) := by
  rcases program.searchNamed_cases home e with ⟨fault, hbreaks, -⟩ | ⟨-, hfound⟩
  · exact absurd hbreaks (h fault)
  · exact hfound

theorem searchNamed_of_breaks (h : program.Breaks home e fault) :
    program.searchNamed home e = .error fault := by
  cases h with
  | tag hne hraised => rw [searchNamed_itself hne, hraised]
  | exit hown hraised herror =>
    rw [searchNamed_of_ownClass hown, searchClass_of_raised hown.home_eq hraised]
    simp [classError, herror, Except.map]
  | untold hown hraised herror hsaid =>
    rw [searchNamed_of_ownClass hown, searchClass_of_raised hown.home_eq hraised]
    simp [classError, herror, hsaid, Except.map]

end

/-! ## Modules -/

/-- The first fault that breaks off the search of some names. -/
def FirstBreak (program : Program) (home : String) (names : Names) (fault : Fault) : Prop :=
  ∃ before entry after, names = before ++ entry :: after ∧
    (∀ b ∈ before, program.Keeps home b.2) ∧ program.Breaks home entry.2 fault

theorem walkNames_of_keeps {names : Names} (h : ∀ entry ∈ names, program.Keeps home entry.2) :
    ∃ errors, program.walkNames home names =
      .ok (names.flatMap fun entry => program.foundAt home entry.2, errors) := by
  induction names with
  | nil => exact ⟨[], rfl⟩
  | cons entry rest ih =>
    obtain ⟨hentry, hrest⟩ := List.forall_mem_cons.1 h
    obtain ⟨errors, hhere⟩ := searchNamed_of_keeps hentry
    obtain ⟨more, hmore⟩ := ih hrest
    exact ⟨errors ++ more, by rw [walkNames, hhere, hmore]; rfl⟩

theorem walkNames_of_firstBreak {names : Names} {fault : Fault}
    (h : program.FirstBreak home names fault) : program.walkNames home names = .error fault := by
  obtain ⟨before, entry, after, rfl, hbefore, hentry⟩ := h
  induction before with
  | nil =>
    rw [List.nil_append, walkNames, searchNamed_of_breaks hentry]
    rfl
  | cons b rest ih =>
    obtain ⟨hb, hrest⟩ := List.forall_mem_cons.1 hbefore
    obtain ⟨errors, hhere⟩ := searchNamed_of_keeps hb
    rw [List.cons_append, walkNames, hhere, ih hrest]
    rfl

theorem keeps_or_firstBreak (program : Program) (home : String) (names : Names) :
    (∀ entry ∈ names, program.Keeps home entry.2) ∨
      ∃ fault, program.FirstBreak home names fault := by
  induction names with
  | nil => exact .inl nofun
  | cons entry rest ih =>
    rcases program.searchNamed_cases home entry.2 with ⟨fault, hbreaks, -⟩ | ⟨hkeeps, -⟩
    · exact .inr ⟨fault, [], entry, rest, rfl, nofun, hbreaks⟩
    · rcases ih with hall | ⟨fault, before, next, after, rfl, hbefore, hnext⟩
      · exact .inl (List.forall_mem_cons.2 ⟨hkeeps, hall⟩)
      · exact .inr ⟨fault, entry :: before, next, after, rfl,
          List.forall_mem_cons.2 ⟨hkeeps, hbefore⟩, hnext⟩

/-- What the walk finds in a module. -/
def found (program : Program) (slot : ModuleSlot) : List Entity :=
  match (program.searchSlot slot).2 with
  | .ok (found, _) => found
  | .error _ => []

/-- A module that ends the walk: its search breaks off with what is no error. -/
def Leaves (program : Program) (slot : ModuleSlot) (fault : Fault) : Prop :=
  (program.searchSlot slot).2 = .error fault ∧ fault.isError = false

section

variable {σ : Type} {slot : ModuleSlot} {slots : List ModuleSlot} {fault : Fault}

theorem run_walkModule_of_stays (h : ∀ fault, ¬ program.Leaves slot fault) (s : σ) :
    ∃ journal, (program.walkModule slot).run s = ⟨.ok (program.found slot), s, journal⟩ ∧
      journal.IsLow := by
  rw [walkModule, found]
  rcases hsearch : program.searchSlot slot with ⟨shown, fault | ⟨found, errors⟩⟩
  · cases herror : fault.isError with
    | false => exact absurd ⟨congrArg Prod.snd hsearch, herror⟩ (h fault)
    | true =>
      obtain ⟨record, hrecord, hlevel⟩ := @Session.run_noteFault_of_low σ .debug .registry
        "Skipping module %r during validator walk: %s" [(shown, shown)] (by decide) fault s
      refine ⟨[record], ?_, by simp [Journal.IsLow, Journal.atLeast, hlevel, Level.rank]⟩
      simp only [herror, if_true]
      rw [Session.run_bind_of_ok (by rw [hrecord]), hrecord]
      rfl
  · refine ⟨errors.map fun error => ⟨.debug, .registry,
      some ("Skipping class during validator walk: " ++ error), none⟩, ?_, ?_⟩
    · simp [Except.map]
    · simp [Journal.IsLow, Journal.atLeast, Level.rank]

theorem run_walkModule_of_leaves (h : program.Leaves slot fault) (s : σ) :
    (program.walkModule slot).run s = ⟨.error fault, s, []⟩ := by
  obtain ⟨hsearch, herror⟩ := h
  rw [walkModule]
  rcases hslot : program.searchSlot slot with ⟨shown, ending⟩
  rw [hslot] at hsearch
  obtain rfl : ending = .error fault := hsearch
  simp [herror]

/-- The walk finds what it finds in the modules, one after the other, and changes nothing. -/
theorem run_walk_of_stays (h : ∀ slot ∈ slots, ∀ fault, ¬ program.Leaves slot fault) (s : σ) :
    ∃ journal, (program.walk slots).run s = ⟨.ok (slots.flatMap program.found), s, journal⟩ ∧
      journal.IsLow := by
  induction slots with
  | nil => exact ⟨[], rfl, rfl⟩
  | cons slot rest ih =>
    obtain ⟨hslot, hrest⟩ := List.forall_mem_cons.1 h
    obtain ⟨here, hhere, hlowHere⟩ := run_walkModule_of_stays hslot s
    obtain ⟨more, hmore, hlowMore⟩ := ih hrest
    have hlow : (here ++ more).IsLow := by
      rw [Journal.IsLow, Journal.atLeast_append, hlowHere, hlowMore]
      rfl
    refine ⟨here ++ more, ?_, hlow⟩
    rw [walk, Session.run_bind_of_ok (by rw [hhere]), hhere,
      Session.run_bind_of_ok (by rw [hmore]), hmore]
    simp

/-- A module that breaks off with what is no error ends the walk. -/
theorem run_walk_of_leaves (h : ∃ slot ∈ slots, ∃ fault, program.Leaves slot fault) (s : σ) :
    ∃ fault journal, (program.walk slots).run s = ⟨.error fault, s, journal⟩ ∧
      fault.isError = false := by
  induction slots with
  | nil =>
    obtain ⟨slot, hslot, -⟩ := h
    cases hslot
  | cons slot rest ih =>
    by_cases hslot : ∃ fault, program.Leaves slot fault
    · obtain ⟨fault, hfault⟩ := hslot
      refine ⟨fault, [], ?_, hfault.2⟩
      rw [walk, Session.run_bind_of_error (by rw [run_walkModule_of_leaves hfault]),
        run_walkModule_of_leaves hfault]
    · obtain ⟨here, hhere, -⟩ :=
        run_walkModule_of_stays (fun fault hfault => hslot ⟨fault, hfault⟩) s
      obtain ⟨fault, more, hmore, hexit⟩ := ih (by
        obtain ⟨other, hother, hfault⟩ := h
        rcases List.mem_cons.1 hother with rfl | hother
        · exact absurd hfault hslot
        · exact ⟨other, hother, hfault⟩)
      refine ⟨fault, here ++ more, ?_, hexit⟩
      rw [walk, Session.run_bind_of_ok (by rw [hhere]), hhere,
        Session.run_bind_of_error (by rw [hmore]), hmore]

end

/-! ## Programs that are walked alike -/

/-- Two programs of the same functions, classes and modules. -/
structure SameDefinitions (program other : Program) : Prop where
  functions : program.functions = other.functions
  classes : program.classes = other.classes
  modules : program.modules = other.modules

section

variable {other : Program}

theorem SameDefinitions.isMarked_eq (h : program.SameDefinitions other) (e : Entity) :
    program.isMarked e = other.isMarked e := by
  cases e <;> simp only [isMarked, lineage, h.functions, h.classes]

theorem SameDefinitions.homeOf_eq (h : program.SameDefinitions other) (e : Entity) :
    program.homeOf e = other.homeOf e := by
  cases e <;> simp only [homeOf, h.functions, h.classes]

theorem SameDefinitions.taggedIn_eq (h : program.SameDefinitions other) (names : Names) :
    program.taggedIn names = other.taggedIn names := by
  simp only [Program.taggedIn_eq, h.isMarked_eq]

theorem SameDefinitions.searchNamed_eq (h : program.SameDefinitions other) (e : Entity) :
    program.searchNamed home e = other.searchNamed home e := by
  cases e with
  | classRef number => simp only [searchNamed, searchClass, h.classes, h.taggedIn_eq]
  | _ => simp only [searchNamed, isTagged_eq, h.isMarked_eq, h.homeOf_eq]

theorem SameDefinitions.walkNames_eq (h : program.SameDefinitions other) (names : Names) :
    program.walkNames home names = other.walkNames home names := by
  induction names with
  | nil => rfl
  | cons entry rest ih => rw [walkNames, walkNames, h.searchNamed_eq, ih]

theorem SameDefinitions.searchSlot_eq (h : program.SameDefinitions other) (slot : ModuleSlot) :
    program.searchSlot slot = other.searchSlot slot := by
  cases slot with
  | module number => simp only [searchSlot, h.modules, h.walkNames_eq]
  | _ => rfl

end

/-! ## What is met -/

/-- What the walk looks at where a thing stands in a module. -/
inductive MetAt (program : Program) (home : String) : Entity → Entity → Prop where
  | itself {e : Entity} : (∀ number, e ≠ .classRef number) →
      program.homeOf e.unwrap = some home → MetAt program home e e
  | inClass {number : Nat} {c : Class} {name : String} {e : Entity} :
      program.IsOwnClass home number c →
      (name, e) ∈ (c.members.takeWhile fun entry => entry.2.raised?.isNone) →
      MetAt program home (.classRef number) e

theorem mem_foundAt_classRef {number : Nat} {e : Entity} :
    e ∈ program.foundAt home (.classRef number) ↔
      program.MetAt home (.classRef number) e ∧ program.isMarked e.unwrap = true := by
  by_cases hown : ∃ c, program.IsOwnClass home number c
  · obtain ⟨c, hown⟩ := hown
    rw [foundAt_of_ownClass hown, mem_taggedIn_iff]
    refine and_congr_left fun _ => ⟨?_, ?_⟩
    · rintro ⟨name, hmem⟩
      exact .inClass hown hmem
    · intro hmet
      cases hmet with
      | itself hne => exact absurd rfl (hne number)
      | @inClass _ c' name _ hown' hmem =>
        obtain rfl : c = c' := Option.some.inj (hown.isClass.symm.trans hown'.isClass)
        exact ⟨name, hmem⟩
  · refine iff_of_false ?_ ?_
    · have hempty : program.taggedIn (default : Class).members = ([], none) := rfl
      cases hc : program.classes[number]? with
      | none => simp [foundAt, hc, hempty]
      | some c =>
        have hhome : c.home ≠ home := fun hhome => hown ⟨c, hc, hhome⟩
        simp [foundAt, hc, hhome]
    · rintro ⟨hmet, -⟩
      cases hmet with
      | itself hne => exact hne number rfl
      | inClass hown' => exact hown ⟨_, hown'⟩

theorem mem_foundAt_itself {here e : Entity} (hne : ∀ number, here ≠ .classRef number) :
    e ∈ program.foundAt home here ↔
      program.MetAt home here e ∧ program.isMarked e.unwrap = true := by
  have hfound : program.foundAt home here =
      if program.isMarked here.unwrap && program.homeOf here.unwrap == some home then [here]
      else [] := by
    cases here with
    | classRef number => exact absurd rfl (hne number)
    | _ => rfl
  rw [hfound]
  constructor
  · intro h
    split at h
    · next hboth =>
      rw [Bool.and_eq_true, beq_iff_eq] at hboth
      obtain rfl := List.mem_singleton.1 h
      exact ⟨.itself hne hboth.2, hboth.1⟩
    · cases h
  · rintro ⟨hmet, hmarked⟩
    cases hmet with
    | itself _ hhome => simp [hmarked, hhome]
    | inClass => exact absurd rfl (hne _)

theorem mem_foundAt_iff {here e : Entity} :
    e ∈ program.foundAt home here ↔
      program.MetAt home here e ∧ program.isMarked e.unwrap = true := by
  cases here with
  | classRef number => exact mem_foundAt_classRef
  | _ => exact mem_foundAt_itself nofun

/-- What the walk through a module meets. -/
def Meets (program : Program) (m : ValidatorModule) (e : Entity) : Prop :=
  (∀ entry ∈ m.members, program.Keeps m.name entry.2) ∧
    ∃ entry ∈ m.members, program.MetAt m.name entry.2 e

section

variable {number : Nat} {m : ValidatorModule} {e : Entity} {fault : Fault}

theorem searchSlot_module (hm : program.modules[number]? = some m) :
    (program.searchSlot (.module number)).2 = program.walkNames m.name m.members := by
  rw [searchSlot, hm, Option.getD_some]

theorem found_of_keeps (hm : program.modules[number]? = some m)
    (h : ∀ entry ∈ m.members, program.Keeps m.name entry.2) :
    program.found (.module number) =
      m.members.flatMap fun entry => program.foundAt m.name entry.2 := by
  obtain ⟨errors, hwalk⟩ := walkNames_of_keeps h
  rw [found, searchSlot_module hm, hwalk]

theorem found_of_firstBreak (hm : program.modules[number]? = some m)
    (h : program.FirstBreak m.name m.members fault) : program.found (.module number) = [] := by
  rw [found, searchSlot_module hm, walkNames_of_firstBreak h]

theorem mem_found_iff (hm : program.modules[number]? = some m) :
    e ∈ program.found (.module number) ↔
      program.Meets m e ∧ program.isMarked e.unwrap = true := by
  rcases program.keeps_or_firstBreak m.name m.members with hkeeps | ⟨fault, hbreak⟩
  · rw [found_of_keeps hm hkeeps]
    simp only [List.mem_flatMap, mem_foundAt_iff]
    constructor
    · rintro ⟨entry, hentry, hmet, hmarked⟩
      exact ⟨⟨hkeeps, entry, hentry, hmet⟩, hmarked⟩
    · rintro ⟨⟨-, entry, hentry, hmet⟩, hmarked⟩
      exact ⟨entry, hentry, hmet, hmarked⟩
  · rw [found_of_firstBreak hm hbreak]
    obtain ⟨before, entry, after, hsplit, -, hbreaks⟩ := hbreak
    have hentry : entry ∈ m.members := by simp [hsplit]
    exact iff_of_false List.not_mem_nil fun h => h.1.1 entry hentry fault hbreaks

/-- A module ends the walk exactly if its search breaks off with what is no error. -/
theorem leaves_module_iff (hm : program.modules[number]? = some m) :
    program.Leaves (.module number) fault ↔
      program.FirstBreak m.name m.members fault ∧ fault.isError = false := by
  rw [Leaves, searchSlot_module hm]
  refine and_congr_left fun _ => ⟨?_, walkNames_of_firstBreak⟩
  intro hwalk
  rcases program.keeps_or_firstBreak m.name m.members with hkeeps | ⟨other, hbreak⟩
  · obtain ⟨errors, hfound⟩ := walkNames_of_keeps hkeeps
    cases hfound.symm.trans hwalk
  · have hother := walkNames_of_firstBreak hbreak
    obtain rfl := Except.error.inj (hother.symm.trans hwalk)
    exact hbreak

end

end Program

end Vetting
