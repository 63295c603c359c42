import Vetting.Proofs.Validator.Discovery
import Vetting.Proofs.Validator.Placement
import Vetting.Proofs.Validator.Redefinition

/-!
# Vetting.Proofs.Validator.Agreement

The registration table and the walk through the modules tell of the same validators, where each
tagged function stands under its own name and the table lists each as the tag saw it. Reading hints
may change the world, so that has to hold in every world that describing the functions leads to.

* `HintReader.LeadsTo`: the worlds that describing things leads to.
* `HintReader.exists_describes`: functions that are told of alike in all of them, described in turn.
* `Registry.mem_dedupe_iff`: where a name tells the descriptor, no descriptor is replaced.
* `Registry.discover_agree`: the table and the walk find the same descriptors.
-/

namespace Vetting

/-- What descriptors are compared by. -/
def Descriptor.fields (d : Descriptor) : String × String × ReturnKind × Bool × Int :=
  (d.qualifiedName, d.context, d.returnKind, d.isStatic, d.parameterCount)

/-- The name of a function with that of its module. -/
def Function.qualifiedName (f : Function) : String :=
  (if f.home.isEmpty then "<unknown>" else f.home) ++ "." ++ f.qualname

namespace Program

variable {program : Program} {slots : List Nat} {slot number : Nat} {m : ValidatorModule}
  {f : Function} {e : Entity}

/-- Modules that can be found by their names, in which each tagged function stands under its own
name, and a table of what was tagged in them. -/
structure Placed (program : Program) (slots : List Nat) (table : List Entity) : Prop where
  loaded : ∀ slot ∈ slots, ∃ m,
    program.modules[slot]? = some m ∧ program.loaded.lookup m.name = some slot
  stands : ∀ {m number f}, program.Tagged slots m number f →
    ∃ e, e.unwrap = .function number ∧ program.standing? m f.qualname = some e
  listed : ∀ e ∈ table, ∃ m number f,
    program.Tagged slots m number f ∧ program.AsTagged m number f e
  lists : ∀ {m number f}, program.Tagged slots m number f →
    ∃ e ∈ table, program.AsTagged m number f e

/-- Modules in which the walk comes to each tagged function where it stands, and takes nothing else
for one: no two have one name, nothing breaks off the search of their modules, no hostile thing
stands before them in their class bodies, other names stand for them as their own do, and no module
ends the walk. Outside of classes nothing is bound to a class. -/
structure Exposed (program : Program) (slots : List Nat) : Prop where
  named : ∀ {m number f m' number' f'}, program.Tagged slots m number f →
    program.Tagged slots m' number' f' → f.qualifiedName = f'.qualifiedName → number = number'
  unbound : ∀ {m number f}, program.Tagged slots m number f → isInClass f.qualname = false →
    program.standing? m f.qualname ≠ some (.classBound (.function number))
  unbroken : ∀ {m number f}, program.Tagged slots m number f →
    ∀ entry ∈ m.members, program.Keeps m.name entry.2
  quiet_before : ∀ {m number f names key}, program.Tagged slots m number f →
    program.place? m f.qualname = some (names, key) →
    ∀ entry ∈ names.takeWhile (·.1 != key), entry.2.raised? = none
  stays : ∀ slot ∈ slots, ∀ fault, ¬ program.Leaves (.module slot) fault
  own : ∀ {slot m e}, slot ∈ slots → program.modules[slot]? = some m → program.Meets m e →
    program.isMarked e.unwrap = true →
    ∃ m' number f, program.Tagged slots m' number f ∧ program.Own m' number f e

/-- What stands for a tagged function of some modules. -/
def StandsForTagged (program : Program) (slots : List Nat) (e : Entity) : Prop :=
  ∃ m number f, program.Tagged slots m number f ∧ program.Own m number f e

/-! ## What the walk meets -/

theorem mem_takeWhile_of_lookup {names : Names} {key : String}
    (hlookup : names.lookup key = some e)
    (hquiet : ∀ entry ∈ names.takeWhile (·.1 != key), entry.2.raised? = none)
    (he : e.raised? = none) :
    (key, e) ∈ names.takeWhile fun entry => entry.2.raised?.isNone := by
  obtain ⟨front, rest, rfl, hfront⟩ := List.lookup_eq_some_iff.1 hlookup
  have hkey : ∀ entry ∈ front, (entry.1 != key) = true := by
    intro entry hentry
    have hne := hfront entry hentry
    rw [bne_iff_ne] at hne ⊢
    exact hne.symm
  rw [List.takeWhile_append_of_pos hkey, List.takeWhile_cons_of_neg (by simp), List.append_nil]
    at hquiet
  rw [List.takeWhile_append_of_pos fun entry hentry => by simp [hquiet entry hentry],
    List.takeWhile_cons_of_pos (by simp [he])]
  simp

theorem mem_of_lookup {names : Names} {key : String} (h : names.lookup key = some e) :
    (key, e) ∈ names := by
  obtain ⟨front, rest, rfl, -⟩ := List.lookup_eq_some_iff.1 h
  simp

theorem isMarked_of_tagged (htagged : program.Tagged slots m number f)
    (hunwrap : e.unwrap = .function number) : program.isMarked e.unwrap = true := by
  rw [hunwrap, isMarked, htagged.isFunction]
  exact htagged.isTagged

theorem Exposed.meets (h : program.Exposed slots) (htagged : program.Tagged slots m number f)
    (hunwrap : e.unwrap = .function number) (hstands : program.standing? m f.qualname = some e) :
    program.Meets m e := by
  obtain ⟨⟨names, key⟩, hplace, hlookup⟩ := Option.bind_eq_some_iff.1 hstands
  have hbefore := h.quiet_before htagged hplace
  refine ⟨h.unbroken htagged, ?_⟩
  rcases place?_cases hplace with ⟨-, rfl⟩ | ⟨outer, other, c, -, -, hclass, hnumber, hhome, rfl⟩
  · refine ⟨_, mem_of_lookup hlookup, .itself ?_ ?_⟩
    · rintro other rfl
      cases hunwrap
    · rw [hunwrap, homeOf, htagged.isFunction, Option.map_some, htagged.home_eq]
  · have hquiet : e.raised? = none := by
      rw [Entity.raised?, hunwrap]
    exact ⟨_, mem_of_lookup hclass,
      .inClass ⟨hnumber, hhome⟩ (mem_takeWhile_of_lookup hlookup hbefore hquiet)⟩

theorem Placed.isLoaded {table : List Entity} (h : program.Placed slots table)
    (htagged : program.Tagged slots m number f) :
    ∃ slot, program.modules[slot]? = some m ∧ program.loaded.lookup m.name = some slot := by
  obtain ⟨slot, hslot, hm⟩ := htagged.isModule
  obtain ⟨m', hm', hloaded⟩ := h.loaded slot hslot
  obtain rfl : m = m' := Option.some.inj (hm.symm.trans hm')
  exact ⟨slot, hm, hloaded⟩

end Program

namespace HintReader

open Program

/-- The worlds that describing some things leads to, each of them any number of times. -/
inductive LeadsTo (reader : HintReader) (things : Entity → Prop) (world : World) :
    World → Prop where
  | start : LeadsTo reader things world world
  | step {next : World} {e : Entity} : LeadsTo reader things world next → things e →
      LeadsTo reader things world ((reader.describe e).run next).state

/-- Functions that are told of alike whichever of them were described before, and whose hints leave
the definitions of the program as they are. -/
structure IsSteady (reader : HintReader) (world : World) (slots : List Nat) : Prop where
  told : ∀ {e}, world.program.StandsForTagged slots e → ∃ d, ∀ next,
    reader.LeadsTo (world.program.StandsForTagged slots) world next →
      ((reader.describe e).run next).result = .ok d
  kept : ∀ next, reader.LeadsTo (world.program.StandsForTagged slots) world next →
    next.program.SameDefinitions world.program

variable {reader : HintReader} {world next last : World} {slots : List Nat} {table : List Entity}
  {m : ValidatorModule} {number : Nat} {f : Function} {e : Entity} {d : Descriptor}

/-- A function that is described where its name says is described by its name. -/
theorem qualifiedName_of_describe (hplaced : world.program.Placed slots table)
    (htagged : world.program.Tagged slots m number f)
    (h : ((reader.describe (.function number)).run world).result = .ok d) :
    d.qualifiedName = f.qualifiedName := by
  obtain ⟨slot, hm, hloaded⟩ := hplaced.isLoaded htagged
  obtain ⟨e, -, hstands⟩ := hplaced.stands htagged
  rw [run_describe_function hm hloaded htagged.isFunction htagged.home_eq hstands] at h
  obtain ⟨kind, -, h⟩ := Session.run_bind_eq_ok_iff.1 h
  cases h
  rfl

theorem describe_of_tagged (hplaced : world.program.Placed slots table)
    (hexposed : world.program.Exposed slots) (htagged : world.program.Tagged slots m number f)
    (hown : world.program.Own m number f e) :
    (reader.describe e).run world = (reader.describe (.function number)).run world := by
  obtain ⟨slot, hm, hloaded⟩ := hplaced.isLoaded htagged
  exact describe_of_own hm hloaded htagged.isFunction htagged.home_eq (hexposed.unbound htagged)
    hown

/-- Functions that are told of alike are described in turn, in any world that this leads to. -/
theorem exists_describes (hsteady : reader.IsSteady world slots) {es : List Entity}
    (hes : ∀ e ∈ es, world.program.StandsForTagged slots e)
    (hnext : reader.LeadsTo (world.program.StandsForTagged slots) world next) :
    ∃ ds last journal, Registry.Describes reader next es ds last journal ∧
      ∀ d, d ∈ ds ↔ ∃ e ∈ es, ((reader.describe e).run world).result = .ok d := by
  induction es generalizing next with
  | nil => exact ⟨[], next, [], .nil, by simp⟩
  | cons e rest ih =>
    obtain ⟨he, hrest⟩ := List.forall_mem_cons.1 hes
    obtain ⟨d, hd⟩ := hsteady.told he
    obtain ⟨ds, last, more, hdescribes, hmem⟩ := ih hrest (hnext.step he)
    have hhere : (reader.describe e).run next =
        ⟨.ok d, ((reader.describe e).run next).state, ((reader.describe e).run next).journal⟩ := by
      rw [← hd next hnext]
    refine ⟨d :: ds, last, _, .cons hhere hdescribes, fun other => ?_⟩
    simp [hmem, hd world .start, eq_comm]

/-- Functions whose hints are read without changing the world are told of alike. -/
theorem isSteady_of_unchanged (hplaced : world.program.Placed slots table)
    (hexposed : world.program.Exposed slots)
    (h : ∀ {m number f}, world.program.Tagged slots m number f →
      ∃ kind journal, (reader.returnKind f).run world = ⟨.ok kind, world, journal⟩) :
    reader.IsSteady world slots := by
  have hdescribe : ∀ {e}, world.program.StandsForTagged slots e →
      ∃ d journal, (reader.describe e).run world = ⟨.ok d, world, journal⟩ := by
    rintro e ⟨m, number, f, htagged, hown⟩
    obtain ⟨slot, hm, hloaded⟩ := hplaced.isLoaded htagged
    obtain ⟨as, -, hstands⟩ := hplaced.stands htagged
    obtain ⟨kind, journal, hkind⟩ := h htagged
    rw [describe_of_tagged hplaced hexposed htagged hown,
      run_describe_function hm hloaded htagged.isFunction htagged.home_eq hstands,
      Session.run_bind_pure _ (by rw [hkind]), hkind]
    exact ⟨_, journal, rfl⟩
  have hstays : ∀ next, reader.LeadsTo (world.program.StandsForTagged slots) world next →
      next = world := by
    intro next hnext
    induction hnext with
    | start => rfl
    | step _ he ih =>
      obtain ⟨d, journal, hd⟩ := hdescribe he
      rw [ih, hd]
  constructor
  · intro e he
    obtain ⟨d, journal, hd⟩ := hdescribe he
    refine ⟨d, fun next hnext => ?_⟩
    rw [hstays next hnext, hd]
  · intro next hnext
    rw [hstays next hnext]
    exact ⟨rfl, rfl, rfl⟩

end HintReader

namespace Registry

open Program

variable {reader : HintReader} {world next : World} {slots : List Nat} {table es : List Entity}
  {d : Descriptor} {ds : List Descriptor}

/-- A registry that asks a table. -/
def indexed (table : List Entity) : Registry := { table := .listed table }

/-- A registry that walks modules. -/
def walking (slots : List Nat) : Registry :=
  { modules? := some (slots.map .module), usesTable := false }

theorem mem_dedupe_iff {ds : List Descriptor}
    (h : ∀ d ∈ ds, ∀ d' ∈ ds, d.qualifiedName = d'.qualifiedName → d = d') :
    d ∈ dedupe ds ↔ d ∈ ds := by
  refine ⟨mem_of_mem_dedupe, fun hd => ?_⟩
  obtain ⟨e, he, hname⟩ := exists_mem_dedupe hd
  rwa [h d hd e (mem_of_mem_dedupe he) hname.symm]

theorem Describes.rest {last : World} {journal : Journal}
    (h : Describes reader world es ds last journal) :
    DescribesRest reader world es ds last journal := by
  induction h with
  | nil => exact .nil
  | cons he _ ih => exact .told he ih

/-- What is told of the tagged functions of some modules. -/
def IsTold (reader : HintReader) (world : World) (slots : List Nat) (d : Descriptor) : Prop :=
  ∃ m number f, world.program.Tagged slots m number f ∧
    ((reader.describe (.function number)).run world).result = .ok d

/-- What the walk finds in some modules, one after the other. -/
def walked (program : Program) (slots : List Nat) : List Entity :=
  (slots.map .module).flatMap program.found

theorem mem_walked_iff {program : Program} {e : Entity} :
    e ∈ walked program slots ↔ ∃ slot ∈ slots, e ∈ program.found (.module slot) := by
  simp [walked, List.mem_flatMap]

/-- The walk is the same in a world of the same definitions. -/
theorem run_walk_of_sameDefinitions (hexposed : world.program.Exposed slots)
    (hsame : next.program.SameDefinitions world.program) :
    ∃ low, (next.program.walk (slots.map .module)).run next =
        ⟨.ok (walked world.program slots), next, low⟩ ∧ low.IsLow := by
  have hfound : next.program.found = world.program.found := by
    funext slot
    rw [found, found, hsame.searchSlot_eq]
  have hstays : ∀ slot ∈ slots.map .module, ∀ fault, ¬ next.program.Leaves slot fault := by
    intro slot hslot fault hleaves
    obtain ⟨number, hnumber, rfl⟩ := List.mem_map.1 hslot
    rw [Leaves, hsame.searchSlot_eq] at hleaves
    exact hexposed.stays number hnumber fault hleaves
  obtain ⟨low, hwalk, hlow⟩ := run_walk_of_stays hstays next
  exact ⟨low, by rw [hwalk, hfound]; rfl, hlow⟩

section Agreement

variable (hplaced : world.program.Placed slots table) (hexposed : world.program.Exposed slots)
include hplaced hexposed

theorem eq_of_isTold {d' : Descriptor} (hd : IsTold reader world slots d)
    (hd' : IsTold reader world slots d') (h : d.qualifiedName = d'.qualifiedName) : d = d' := by
  obtain ⟨m, number, f, htagged, hdescribe⟩ := hd
  obtain ⟨m', number', f', htagged', hdescribe'⟩ := hd'
  rw [HintReader.qualifiedName_of_describe hplaced htagged hdescribe,
    HintReader.qualifiedName_of_describe hplaced htagged' hdescribe'] at h
  obtain rfl := hexposed.named htagged htagged' h
  exact Except.ok.inj (hdescribe.symm.trans hdescribe')

theorem exists_mem_table_iff :
    (∃ e ∈ table, ((reader.describe e).run world).result = .ok d) ↔
      IsTold reader world slots d := by
  constructor
  · rintro ⟨e, he, hd⟩
    obtain ⟨m, number, f, htagged, has⟩ := hplaced.listed e he
    rw [HintReader.describe_of_tagged hplaced hexposed htagged (.asTagged has)] at hd
    exact ⟨m, number, f, htagged, hd⟩
  · rintro ⟨m, number, f, htagged, hd⟩
    obtain ⟨e, he, has⟩ := hplaced.lists htagged
    rw [← HintReader.describe_of_tagged hplaced hexposed htagged (.asTagged has)] at hd
    exact ⟨e, he, hd⟩

theorem standsForTagged_of_mem_walked {e : Entity} (he : e ∈ walked world.program slots) :
    world.program.StandsForTagged slots e := by
  obtain ⟨slot, hslot, hfound⟩ := mem_walked_iff.1 he
  obtain ⟨m, hm, -⟩ := hplaced.loaded slot hslot
  obtain ⟨hmeets, hmarked⟩ := (mem_found_iff hm).1 hfound
  exact hexposed.own hslot hm hmeets hmarked

theorem exists_mem_walked_iff :
    (∃ e ∈ walked world.program slots, ((reader.describe e).run world).result = .ok d) ↔
      IsTold reader world slots d := by
  constructor
  · rintro ⟨e, he, hd⟩
    obtain ⟨m, number, f, htagged, hown⟩ := standsForTagged_of_mem_walked hplaced hexposed he
    rw [HintReader.describe_of_tagged hplaced hexposed htagged hown] at hd
    exact ⟨m, number, f, htagged, hd⟩
  · rintro ⟨m, number, f, htagged, hd⟩
    obtain ⟨slot, hslot, hm⟩ := htagged.isModule
    obtain ⟨e, hunwrap, hstands⟩ := hplaced.stands htagged
    have hmeets := hexposed.meets htagged hunwrap hstands
    have hfound := (mem_found_iff hm).2 ⟨hmeets, isMarked_of_tagged htagged hunwrap⟩
    rw [← HintReader.describe_of_tagged hplaced hexposed htagged
      (.asTagged (.standing hunwrap hstands))] at hd
    exact ⟨e, mem_walked_iff.2 ⟨slot, hslot, hfound⟩, hd⟩

variable (hsteady : reader.IsSteady world slots)
include hsteady

theorem exists_discover_indexed
    (hnext : reader.LeadsTo (world.program.StandsForTagged slots) world next) :
    ∃ ds, ((discover reader (indexed table)).run next).result = .ok ds ∧
      ∀ d, d ∈ ds ↔ IsTold reader world slots d := by
  have hstand : ∀ e ∈ table, world.program.StandsForTagged slots e := by
    intro e he
    obtain ⟨m, number, f, htagged, has⟩ := hplaced.listed e he
    exact ⟨m, number, f, htagged, .asTagged has⟩
  obtain ⟨ds, last, journal, hdescribes, hmem⟩ := HintReader.exists_describes hsteady hstand hnext
  have hrun : (discover reader (indexed table)).run next = ⟨.ok (dedupe ds), last, journal⟩ :=
    run_discover (.table rfl rfl hdescribes)
  have htold : ∀ d, d ∈ ds ↔ IsTold reader world slots d := fun d => by
    rw [hmem, exists_mem_table_iff hplaced hexposed]
  refine ⟨dedupe ds, by rw [hrun], fun d => ?_⟩
  rw [mem_dedupe_iff, htold]
  intro d hd d' hd'
  exact eq_of_isTold hplaced hexposed ((htold d).1 hd) ((htold d').1 hd')

theorem exists_discover_walking
    (hnext : reader.LeadsTo (world.program.StandsForTagged slots) world next) :
    ∃ ds, ((discover reader (walking slots)).run next).result = .ok ds ∧
      ∀ d, d ∈ ds ↔ IsTold reader world slots d := by
  obtain ⟨low, hwalk, hlow⟩ := run_walk_of_sameDefinitions hexposed (hsteady.kept next hnext)
  obtain ⟨ds, last, journal, hdescribes, hmem⟩ := HintReader.exists_describes hsteady
    (fun e he => standsForTagged_of_mem_walked hplaced hexposed he) hnext
  have hwalks : Walks reader next (walking slots) (dedupe ds) last (low ++ journal) :=
    .intro hwalk hlow hdescribes.rest
  have hrun : (discover reader (walking slots)).run next =
      ⟨.ok (dedupe ds), last, low ++ journal⟩ :=
    run_discover (.walk rfl hwalks)
  have htold : ∀ d, d ∈ ds ↔ IsTold reader world slots d := fun d => by
    rw [hmem, exists_mem_walked_iff hplaced hexposed]
  refine ⟨dedupe ds, by rw [hrun], fun d => ?_⟩
  rw [mem_dedupe_iff, htold]
  intro d hd d' hd'
  exact eq_of_isTold hplaced hexposed ((htold d).1 hd) ((htold d').1 hd')

/-- The table and the walk find the same descriptors, each from any world that describing the
functions leads to: so whichever of them comes first. -/
theorem discover_agree {asked walkedIn : World}
    (hasked : reader.LeadsTo (world.program.StandsForTagged slots) world asked)
    (hwalked : reader.LeadsTo (world.program.StandsForTagged slots) world walkedIn) :
    ∃ ds ds', ((discover reader (indexed table)).run asked).result = .ok ds ∧
      ((discover reader (walking slots)).run walkedIn).result = .ok ds' ∧
      ∀ d, d ∈ ds ↔ d ∈ ds' := by
  obtain ⟨ds, hds, htold⟩ := exists_discover_indexed hplaced hexposed hsteady hasked
  obtain ⟨ds', hds', htold'⟩ := exists_discover_walking hplaced hexposed hsteady hwalked
  exact ⟨ds, ds', hds, hds', fun d => by rw [htold, htold']⟩

end Agreement

/-! ### Programs in which what was tagged is placed -/

/-- A tagged function of a module: as what it stands there, and as what the table lists it. -/
structure Tagging where
  home : ValidatorModule
  number : Nat
  function : Function
  standing : Entity
  entry : Entity

theorem placed_of_tagging {program : Program} (taggings : List Tagging)
    (hloaded : ∀ slot ∈ slots, ∃ m,
      program.modules[slot]? = some m ∧ program.loaded.lookup m.name = some slot)
    (hall : program.taggedFunctions slots = taggings.map fun t => (t.home, t.number, t.function))
    (hstands : ∀ t ∈ taggings, t.standing.unwrap = .function t.number ∧
      program.standing? t.home t.function.qualname = some t.standing ∧
      program.AsTagged t.home t.number t.function t.entry)
    (htable : ∀ e, e ∈ table ↔ e ∈ taggings.map (·.entry)) : program.Placed slots table := by
  have htagged : ∀ {m number f}, program.Tagged slots m number f ↔
      ∃ t ∈ taggings, t.home = m ∧ t.number = number ∧ t.function = f := by
    intro m number f
    rw [tagged_iff, hall, List.mem_map]
    simp only [Prod.mk.injEq]
  refine ⟨hloaded, ?_, ?_, ?_⟩
  · intro m number f h
    obtain ⟨t, ht, rfl, rfl, rfl⟩ := htagged.1 h
    exact ⟨t.standing, (hstands t ht).1, (hstands t ht).2.1⟩
  · intro e he
    obtain ⟨t, ht, rfl⟩ := List.mem_map.1 ((htable e).1 he)
    exact ⟨_, _, _, htagged.2 ⟨t, ht, rfl, rfl, rfl⟩, (hstands t ht).2.2⟩
  · intro m number f h
    obtain ⟨t, ht, rfl, rfl, rfl⟩ := htagged.1 h
    exact ⟨t.entry, (htable _).2 (List.mem_map_of_mem ht), (hstands t ht).2.2⟩

/-! ### A program in which they agree -/

def tagged (home qualname : String) (parameters : List String) : Function :=
  { home, qualname, parameters, isTagged := true, body := .script 0, moduleNumber := 0 }

/-- A thing that raises an error when it is asked for its tag. -/
def odd : Entity := .hostile (.withText "RuntimeError" "no")

/-- A function, a static one that was tagged itself, one bound to its class, and other names for
them in their own module and in another one. -/
def mixed : Program where
  functions := #[tagged "m" "f" [], tagged "m" "C.g" ["self"], tagged "m" "C.h" ["cls"]]
  classes := #[
    { home := "m", qualname := "C"
      members := [("g", .static (.function 1)), ("h", .classBound (.function 2)), ("odd", odd)] },
    { home := "n", qualname := "D", members := [("again", .function 1)] }]
  modules := #[
    ⟨"m", [("f", .function 0), ("C", .classRef 0), ("check", .bound 2)]⟩,
    ⟨"n", [("f", .function 0), ("D", .classRef 1)]⟩]
  loaded := [("n", 1), ("m", 0)]

/-- A world of a program. -/
def worldOf (program : Program) : World := { program, workspace := { tree := ⟨[], []⟩ } }

def mixedModule : ValidatorModule :=
  ⟨"m", [("f", .function 0), ("C", .classRef 0), ("check", .bound 2)]⟩

theorem taggedFunctions_mixed : mixed.taggedFunctions [1, 0] =
    [(mixedModule, 0, tagged "m" "f" []), (mixedModule, 1, tagged "m" "C.g" ["self"]),
      (mixedModule, 2, tagged "m" "C.h" ["cls"])] := rfl

theorem tagged_mixed {m : ValidatorModule} {number : Nat} {f : Function} :
    mixed.Tagged [1, 0] m number f ↔
      m = mixedModule ∧ (number = 0 ∧ f = tagged "m" "f" [] ∨
        number = 1 ∧ f = tagged "m" "C.g" ["self"] ∨
        number = 2 ∧ f = tagged "m" "C.h" ["cls"]) := by
  rw [tagged_iff, taggedFunctions_mixed]
  simp only [List.mem_cons, List.not_mem_nil, or_false, Prod.mk.injEq, and_or_left]

theorem placed_mixed :
    mixed.Placed [1, 0] [.classBound (.function 2), .function 0, .function 1] := by
  refine placed_of_tagging [
    ⟨mixedModule, 0, tagged "m" "f" [], .function 0, .function 0⟩,
    ⟨mixedModule, 1, tagged "m" "C.g" ["self"], .static (.function 1), .function 1⟩,
    ⟨mixedModule, 2, tagged "m" "C.h" ["cls"], .classBound (.function 2),
      .classBound (.function 2)⟩] ?_ taggedFunctions_mixed ?_ ?_
  · simp only [List.forall_mem_cons, List.not_mem_nil, false_implies, implies_true, and_true]
    exact ⟨⟨_, rfl, rfl⟩, _, rfl, rfl⟩
  · simp only [List.forall_mem_cons, List.not_mem_nil, false_implies, implies_true, and_true]
    exact ⟨⟨rfl, rfl, .itself⟩, ⟨rfl, rfl, .itself⟩, rfl, rfl, .standing rfl rfl⟩
  · simp only [List.map_cons, List.map_nil, List.mem_cons, List.not_mem_nil, or_false]
    exact fun e => ⟨fun h => by tauto, fun h => by tauto⟩

theorem found_mixed : mixed.found (.module 0) =
    [.function 0, .static (.function 1), .classBound (.function 2), .bound 2] := rfl

theorem found_mixed_other : mixed.found (.module 1) = [.function 1] := rfl

theorem exposed_mixed : mixed.Exposed [1, 0] where
  named := by
    intro m number f m' number' f' h h' hname
    obtain ⟨-, ⟨rfl, rfl⟩ | ⟨rfl, rfl⟩ | ⟨rfl, rfl⟩⟩ := tagged_mixed.1 h <;>
      obtain ⟨-, ⟨rfl, rfl⟩ | ⟨rfl, rfl⟩ | ⟨rfl, rfl⟩⟩ := tagged_mixed.1 h' <;>
      first
      | rfl
      | exact absurd hname (by decide)
  unbound := by
    intro m number f h htop hbound
    obtain ⟨rfl, ⟨rfl, rfl⟩ | ⟨rfl, rfl⟩ | ⟨rfl, rfl⟩⟩ := tagged_mixed.1 h
    · cases hbound
    · cases hbound
    · cases htop
  unbroken := by
    intro m number f h
    obtain ⟨rfl, -⟩ := tagged_mixed.1 h
    rcases mixed.keeps_or_firstBreak "m" mixedModule.members with hkeeps | ⟨fault, hbreak⟩
    · exact hkeeps
    · cases walkNames_of_firstBreak hbreak
  quiet_before := by
    intro m number f names key h hplace
    obtain ⟨rfl, ⟨rfl, rfl⟩ | ⟨rfl, rfl⟩ | ⟨rfl, rfl⟩⟩ := tagged_mixed.1 h <;>
      obtain ⟨rfl, rfl⟩ := Prod.mk.inj (Option.some.inj hplace) <;> decide
  stays := by
    intro slot hslot fault hleaves
    simp only [List.mem_cons, List.not_mem_nil, or_false] at hslot
    rcases hslot with rfl | rfl
    · cases hleaves.1
    · cases hleaves.1
  own := by
    have hf : mixed.Tagged [1, 0] mixedModule 0 (tagged "m" "f" []) :=
      tagged_mixed.2 ⟨rfl, .inl ⟨rfl, rfl⟩⟩
    have hg : mixed.Tagged [1, 0] mixedModule 1 (tagged "m" "C.g" ["self"]) :=
      tagged_mixed.2 ⟨rfl, .inr (.inl ⟨rfl, rfl⟩)⟩
    have hh : mixed.Tagged [1, 0] mixedModule 2 (tagged "m" "C.h" ["cls"]) :=
      tagged_mixed.2 ⟨rfl, .inr (.inr ⟨rfl, rfl⟩)⟩
    intro slot m e hslot hm hmeets hmarked
    have he := (mem_found_iff hm).2 ⟨hmeets, hmarked⟩
    simp only [List.mem_cons, List.not_mem_nil, or_false] at hslot
    rcases hslot with rfl | rfl
    · rw [found_mixed_other, List.mem_singleton] at he
      subst he
      exact ⟨_, _, _, hg, .asTagged .itself⟩
    · rw [found_mixed] at he
      simp only [List.mem_cons, List.not_mem_nil, or_false] at he
      rcases he with rfl | rfl | rfl | rfl
      · exact ⟨_, _, _, hf, .asTagged .itself⟩
      · exact ⟨_, _, _, hg, .asTagged (.standing rfl rfl)⟩
      · exact ⟨_, _, _, hh, .asTagged (.standing rfl rfl)⟩
      · exact ⟨_, _, _, hh, .bound (e := .classBound (.function 2)) rfl rfl rfl⟩

theorem isSteady_mixed : HintReader.standard.IsSteady (worldOf mixed) [1, 0] := by
  refine HintReader.isSteady_of_unchanged placed_mixed exposed_mixed fun h => ?_
  obtain ⟨-, ⟨rfl, rfl⟩ | ⟨rfl, rfl⟩ | ⟨rfl, rfl⟩⟩ := tagged_mixed.1 h <;>
    exact ⟨.invalid, [], rfl⟩

theorem discover_agree_mixed :
    mixed.Placed [1, 0] [.classBound (.function 2), .function 0, .function 1] ∧
      mixed.Exposed [1, 0] ∧ HintReader.standard.IsSteady (worldOf mixed) [1, 0] ∧
      ∃ ds ds', ((discover .standard
            (indexed [.classBound (.function 2), .function 0, .function 1])).run
          (worldOf mixed)).result = .ok ds ∧
        ((discover .standard (walking [1, 0])).run (worldOf mixed)).result = .ok ds' ∧
        ∀ d, d ∈ ds ↔ d ∈ ds' :=
  ⟨placed_mixed, exposed_mixed, isSteady_mixed,
    discover_agree placed_mixed exposed_mixed isSteady_mixed .start .start⟩

/-! ### Programs in which they differ -/

/-- What descriptors are compared by, for all that a registry finds in a program. -/
def foundIn (program : Program) (registry : Registry) :
    Except Fault (List (String × String × ReturnKind × Bool × Int)) :=
  ((discover .standard registry).run (worldOf program)).result.map (·.map (·.fields))

/-- What was tagged stands under its own names and is listed, but the table and the walk do not tell
of the same validators. -/
def Differ (program : Program) (slots : List Nat) (table : List Entity) : Prop :=
  program.Placed slots table ∧
    ¬ ∃ found found', foundIn program (indexed table) = .ok found ∧
      foundIn program (walking slots) = .ok found' ∧ ∀ fields, fields ∈ found ↔ fields ∈ found'

theorem differ_of_mem {program : Program}
    {found found' : List (String × String × ReturnKind × Bool × Int)}
    (hplaced : program.Placed slots table) (hfound : foundIn program (indexed table) = .ok found)
    (hfound' : foundIn program (walking slots) = .ok found')
    (h : ∃ fields ∈ found, fields ∉ found') : Differ program slots table := by
  refine ⟨hplaced, ?_⟩
  rintro ⟨_, _, hasked, hwalked, hsame⟩
  obtain rfl := Except.ok.inj (hfound.symm.trans hasked)
  obtain rfl := Except.ok.inj (hfound'.symm.trans hwalked)
  obtain ⟨fields, hmem, hnot⟩ := h
  exact hnot ((hsame fields).1 hmem)

theorem differ_of_fault {program : Program} {fault : Fault}
    (hplaced : program.Placed slots table)
    (hfault : foundIn program (indexed table) = .error fault) : Differ program slots table := by
  refine ⟨hplaced, ?_⟩
  rintro ⟨_, _, hasked, -⟩
  cases hfault.symm.trans hasked

theorem placed_of_single {program : Program} {slot number : Nat} {m : ValidatorModule}
    {f : Function} {e e' : Entity} (hm : program.modules[slot]? = some m)
    (hloaded : program.loaded.lookup m.name = some slot)
    (hall : program.taggedFunctions [slot] = [(m, number, f)])
    (hunwrap : e.unwrap = .function number) (hstands : program.standing? m f.qualname = some e)
    (has : program.AsTagged m number f e') : program.Placed [slot] [e'] :=
  placed_of_tagging [⟨m, number, f, e, e'⟩]
    (List.forall_mem_singleton.2 ⟨m, hm, hloaded⟩) hall
    (List.forall_mem_singleton.2 ⟨hunwrap, hstands, has⟩) fun _ => Iff.rfl

/-- A program of one function and one module. -/
def ofNames (f : Function) (classes : List Class) (members : Names) : Program :=
  { functions := #[f], classes := classes.toArray, modules := #[⟨"m", members⟩]
    loaded := [("m", 0)] }

/-- A hostile thing in the module hides the function. -/
def hiddenByModule : Program :=
  ofNames (tagged "m" "f" []) [] [("f", .function 0), ("odd", odd)]

/-- A hostile thing in the class body hides the function behind it. -/
def hiddenByMember : Program :=
  ofNames (tagged "m" "C.f" [])
    [{ home := "m", qualname := "C", members := [("odd", odd), ("f", .static (.function 0))] }]
    [("C", .classRef 0)]

/-- The function is bound to a class, but stands in none. -/
def boundAtTop : Program := ofNames (tagged "m" "f" []) [] [("f", .classBound (.function 0))]

/-- A second class holds the function as a static one. -/
def wrappedAgain : Program :=
  ofNames (tagged "m" "C.f" ["self"])
    [{ home := "m", qualname := "C", members := [("f", .function 0)] },
     { home := "m", qualname := "D", members := [("g", .static (.function 0))] }]
    [("C", .classRef 0), ("D", .classRef 1)]

/-- The function hints the exit of the program. -/
def leaving : Program :=
  ofNames { tagged "m" "f" [] with returnHint := some (.value (.text "exit()")) } []
    [("f", .function 0)]

/-- Two functions of one qualified name, one of a class and one of a module. -/
def sharedName : Program where
  functions := #[tagged "a" "b.f" [], tagged "a.b" "f" ["x"]]
  classes := #[{ home := "a", qualname := "b", members := [("f", .static (.function 0))] }]
  modules := #[⟨"a", [("b", .classRef 0)]⟩, ⟨"a.b", [("f", .function 1)]⟩]
  loaded := [("a", 0), ("a.b", 1)]

theorem placed_sharedName : sharedName.Placed [0, 1] [.function 1, .static (.function 0)] := by
  refine placed_of_tagging [
    ⟨⟨"a", [("b", .classRef 0)]⟩, 0, tagged "a" "b.f" [], .static (.function 0),
      .static (.function 0)⟩,
    ⟨⟨"a.b", [("f", .function 1)]⟩, 1, tagged "a.b" "f" ["x"], .function 1, .function 1⟩]
    ?_ rfl ?_ ?_
  · simp only [List.forall_mem_cons, List.not_mem_nil, false_implies, implies_true, and_true]
    exact ⟨⟨_, rfl, rfl⟩, _, rfl, rfl⟩
  · simp only [List.forall_mem_cons, List.not_mem_nil, false_implies, implies_true, and_true]
    exact ⟨⟨rfl, rfl, .standing rfl rfl⟩, rfl, rfl, .itself⟩
  · simp only [List.map_cons, List.map_nil, List.mem_cons, List.not_mem_nil, or_false]
    exact fun e => or_comm

/-- A function that hints the call of another one. -/
def hinting (qualname : String) : Function :=
  { tagged "m" qualname [] with returnHint := some (.value (.text "f()")) }

/-- Two functions that hint the call of a third, which answers the one kind and then the other. -/
def answering : Program where
  functions := #[hinting "g", hinting "h",
    { home := "m", qualname := "f", body := .script 0, moduleNumber := 0 }]
  modules := #[⟨"m", [("g", .function 0), ("h", .function 1), ("f", .function 2)]⟩]
  scripts := #[[.returns (.value (.text "bool")), .returns (.value (.text "int"))]]
  loaded := [("m", 0)]

theorem placed_answering : answering.Placed [0] [.function 1, .function 0] := by
  refine placed_of_tagging [
    ⟨⟨"m", [("g", .function 0), ("h", .function 1), ("f", .function 2)]⟩, 0, hinting "g",
      .function 0, .function 0⟩,
    ⟨⟨"m", [("g", .function 0), ("h", .function 1), ("f", .function 2)]⟩, 1, hinting "h",
      .function 1, .function 1⟩]
    (List.forall_mem_singleton.2 ⟨_, rfl, rfl⟩) rfl ?_ ?_
  · simp only [List.forall_mem_cons, List.not_mem_nil, false_implies, implies_true, and_true]
    exact ⟨⟨rfl, rfl, .itself⟩, rfl, rfl, .itself⟩
  · simp only [List.map_cons, List.map_nil, List.mem_cons, List.not_mem_nil, or_false]
    exact fun e => or_comm

theorem discover_differ :
    Differ hiddenByModule [0] [.function 0] ∧ Differ hiddenByMember [0] [.function 0] ∧
      Differ boundAtTop [0] [.function 0] ∧ Differ wrappedAgain [0] [.function 0] ∧
      Differ sharedName [0, 1] [.function 1, .static (.function 0)] ∧
      Differ leaving [0] [.function 0] ∧ Differ answering [0] [.function 1, .function 0] := by
  refine ⟨?_, ?_, ?_, ?_, ?_, ?_, ?_⟩
  · exact differ_of_mem (placed_of_single rfl rfl rfl (e := .function 0) rfl rfl .itself) rfl rfl
      ⟨("m.f", "m", .invalid, true, 0), by decide, by decide⟩
  · exact differ_of_mem (placed_of_single rfl rfl rfl (e := .static (.function 0)) rfl rfl .itself)
      rfl rfl ⟨("m.C.f", "m.C", .invalid, true, 0), by decide, by decide⟩
  · exact differ_of_mem (placed_of_single rfl rfl rfl (e := .classBound (.function 0)) rfl rfl
      .itself) rfl rfl ⟨("m.f", "m", .invalid, true, 0), by decide, by decide⟩
  · exact differ_of_mem (placed_of_single rfl rfl rfl (e := .function 0) rfl rfl .itself) rfl rfl
      ⟨("m.C.f", "m.C", .invalid, false, 1), by decide, by decide⟩
  · exact differ_of_mem placed_sharedName rfl rfl
      ⟨("a.b.f", "a.b", .invalid, true, 0), by decide, by decide⟩
  · exact differ_of_fault (placed_of_single rfl rfl rfl (e := .function 0) rfl rfl .itself) rfl
  · exact differ_of_mem placed_answering rfl rfl
      ⟨("m.h", "m", .boolean, true, 0), by decide, by decide⟩

end Registry

end Vetting
