import Vetting.Proofs.Validator.Walk

/-!
# Vetting.Proofs.Validator.Discovery

What one discovery comes to. Either the table tells of all that it lists, or nothing of it counts:
then there is one warning, and the modules are walked as if the table had not been asked. Of what
the walk finds, only what cannot be described is left out. Only errors are passed over; what is none
ends the discovery, wherever it is raised, and so may a fault that the warning cannot tell.

* `Registry.Describes`, `Registry.DescribesRest`: things described one after the other, in worlds
  that reading their hints changes.
* `Registry.TableFault`: why a table is given up.
* `Registry.Discovers`: the outcomes that a discovery may have; `Registry.Fails`: what keeps it from
  having one.
* `Registry.run_discover`, `Registry.discovers_or_fails`, `Registry.not_discovers_of_fails`: a
  discovery has one of these outcomes exactly when nothing keeps it from that.
-/

namespace Vetting

/-- What a table lists, if it is one. -/
def TableSource.entities? (program : Program) : TableSource → Option (List Entity)
  | .registration => some program.table
  | .listed entities => some entities
  | .invalid _ => none

namespace Registry

/-! ## Things that are described -/

/-- Things that are all described, one after the other: each in the world that is left by those
before it. -/
inductive Describes (reader : HintReader) :
    World → List Entity → List Descriptor → World → Journal → Prop where
  | nil {world : World} : Describes reader world [] [] world []
  | cons {world next last : World} {e : Entity} {es : List Entity} {d : Descriptor}
      {ds : List Descriptor} {here more : Journal} :
      (reader.describe e).run world = ⟨.ok d, next, here⟩ →
      Describes reader next es ds last more →
      Describes reader world (e :: es) (d :: ds) last (here ++ more)

/-- Things that are described one after the other, but for those where an error ends that. -/
inductive DescribesRest (reader : HintReader) :
    World → List Entity → List Descriptor → World → Journal → Prop where
  | nil {world : World} : DescribesRest reader world [] [] world []
  | told {world next last : World} {e : Entity} {es : List Entity} {d : Descriptor}
      {ds : List Descriptor} {here more : Journal} :
      (reader.describe e).run world = ⟨.ok d, next, here⟩ →
      DescribesRest reader next es ds last more →
      DescribesRest reader world (e :: es) (d :: ds) last (here ++ more)
  | leftOut {world next last : World} {e : Entity} {es : List Entity} {fault : Fault}
      {ds : List Descriptor} {here more : Journal} :
      (reader.describe e).run world = ⟨.error fault, next, here⟩ → fault.isError = true →
      DescribesRest reader next es ds last more →
      DescribesRest reader world (e :: es) ds last (here ++ more)

variable {reader : HintReader} {world next last : World} {es before : List Entity}
  {e : Entity} {ds : List Descriptor} {fault : Fault} {journal here : Journal}

theorem run_mapM_of_describes (h : Describes reader world es ds last journal) :
    (es.mapM reader.describe).run world = ⟨.ok ds, last, journal⟩ := by
  induction h with
  | nil => rfl
  | cons he _ ih =>
    rw [List.mapM_cons, Session.run_bind_of_ok (by rw [he]), he,
      Session.run_bind_of_ok (by rw [ih]), ih]
    simp

theorem run_mapM_of_fault (after : List Entity)
    (hbefore : Describes reader world before ds next journal)
    (he : (reader.describe e).run next = ⟨.error fault, last, here⟩) :
    ((before ++ e :: after).mapM reader.describe).run world =
      ⟨.error fault, last, journal ++ here⟩ := by
  induction hbefore with
  | nil => rw [List.nil_append, List.mapM_cons, Session.run_bind_of_error (by rw [he]), he]; rfl
  | cons hfirst _ ih =>
    rw [List.cons_append, List.mapM_cons, Session.run_bind_of_ok (by rw [hfirst]), hfirst,
      Session.run_bind_of_error (by rw [ih he]), ih he, List.append_assoc]

/-- Things can all be described, or one of them is the first that cannot. -/
theorem describes_or_fault (reader : HintReader) (world : World) (es : List Entity) :
    (∃ ds last journal, Describes reader world es ds last journal) ∨
      ∃ before e after ds next journal fault last here, es = before ++ e :: after ∧
        Describes reader world before ds next journal ∧
        (reader.describe e).run next = ⟨.error fault, last, here⟩ := by
  induction es generalizing world with
  | nil => exact .inl ⟨_, _, _, .nil⟩
  | cons first rest ih =>
    rcases hfirst : (reader.describe first).run world with ⟨fault | d, next, here⟩
    · exact .inr ⟨[], first, rest, [], world, [], fault, next, here, rfl, .nil, hfirst⟩
    · rcases ih next with ⟨ds, last, more, hrest⟩ |
        ⟨before, e, after, ds, middle, more, fault, last, there, rfl, hbefore, he⟩
      · exact .inl ⟨_, _, _, .cons hfirst hrest⟩
      · exact .inr ⟨first :: before, e, after, _, middle, _, fault, last, there, rfl,
          .cons hfirst hbefore, he⟩

theorem run_describeEach_of_rest (h : DescribesRest reader world es ds last journal) :
    (describeEach reader es).run world = ⟨.ok ds, last, journal⟩ := by
  induction h with
  | nil => rfl
  | told he _ ih => simp [describeEach, Session.run_bind, he, ih, Except.map]
  | leftOut he herror _ ih => simp [describeEach, Session.run_bind, he, herror, ih]

theorem run_describeEach_of_exit (after : List Entity)
    (hbefore : DescribesRest reader world before ds next journal)
    (he : (reader.describe e).run next = ⟨.error fault, last, here⟩)
    (hexit : fault.isError = false) :
    (describeEach reader (before ++ e :: after)).run world =
      ⟨.error fault, last, journal ++ here⟩ := by
  induction hbefore with
  | nil => simp [describeEach, Session.run_bind, he, hexit]
  | told hfirst _ ih => simp [describeEach, Session.run_bind, hfirst, ih he, Except.map]
  | leftOut hfirst herror _ ih => simp [describeEach, Session.run_bind, hfirst, herror, ih he]

/-- Things are described as far as errors allow, or one of them is the first at which what is no
error is raised. -/
theorem describesRest_or_exit (reader : HintReader) (world : World) (es : List Entity) :
    (∃ ds last journal, DescribesRest reader world es ds last journal) ∨
      ∃ before e after ds next journal fault last here, es = before ++ e :: after ∧
        DescribesRest reader world before ds next journal ∧
        (reader.describe e).run next = ⟨.error fault, last, here⟩ ∧ fault.isError = false := by
  induction es generalizing world with
  | nil => exact .inl ⟨_, _, _, .nil⟩
  | cons first rest ih =>
    rcases hfirst : (reader.describe first).run world with ⟨fault | d, next, here⟩
    · cases herror : fault.isError with
      | false =>
        exact .inr ⟨[], first, rest, [], world, [], fault, next, here, rfl, .nil, hfirst, herror⟩
      | true =>
        rcases ih next with ⟨ds, last, more, hrest⟩ |
          ⟨before, e, after, ds, middle, more, other, last, there, rfl, hbefore, he⟩
        · exact .inl ⟨_, _, _, .leftOut hfirst herror hrest⟩
        · exact .inr ⟨first :: before, e, after, _, middle, _, other, last, there, rfl,
            .leftOut hfirst herror hbefore, he⟩
    · rcases ih next with ⟨ds, last, more, hrest⟩ |
        ⟨before, e, after, ds, middle, more, other, last, there, rfl, hbefore, he⟩
      · exact .inl ⟨_, _, _, .told hfirst hrest⟩
      · exact .inr ⟨first :: before, e, after, _, middle, _, other, last, there, rfl,
          .told hfirst hbefore, he⟩

/-! ## The table -/

/-- Why a table is given up: it is no table, or something in it cannot be described. -/
inductive TableFault (reader : HintReader) (world : World) :
    TableSource → Fault → World → Journal → Prop where
  | noTable (v : Value) : TableFault reader world (.invalid v)
      (.framework .discovery ("registration table is not a sequence: " ++ v.shown)) world []
  | entry {table : TableSource} {before after : List Entity} {e : Entity} {ds : List Descriptor}
      {next last : World} {journal here : Journal} {fault : Fault} :
      table.entities? world.program = some (before ++ e :: after) →
      Describes reader world before ds next journal →
      (reader.describe e).run next = ⟨.error fault, last, here⟩ →
      TableFault reader world table fault last (journal ++ here)

variable {table : TableSource} {registry : Registry}

theorem run_fromTable_of_entities (h : table.entities? world.program = some es) :
    (fromTable reader table).run world =
      (Session.run (do return dedupe (← es.mapM reader.describe)) world) := by
  have hentries : entriesOf world.program table = .ok es := by
    cases table with
    | registration => exact congrArg Except.ok (Option.some.inj h)
    | listed entities => exact congrArg Except.ok (Option.some.inj h)
    | invalid v => cases h
  simp only [fromTable]
  simp [Session.run_bind, hentries]

theorem run_fromTable_of_described (hentities : table.entities? world.program = some es)
    (h : Describes reader world es ds last journal) :
    (fromTable reader table).run world = ⟨.ok (dedupe ds), last, journal⟩ := by
  have hall := run_mapM_of_describes h
  rw [run_fromTable_of_entities hentities, Session.run_bind_pure _ (by rw [hall]), hall]

theorem run_fromTable_of_fault (h : TableFault reader world table fault last journal) :
    (fromTable reader table).run world = ⟨.error fault, last, journal⟩ := by
  cases h with
  | noTable v => rfl
  | @entry _ _ after _ _ _ _ _ _ _ hentities hbefore he =>
    have hall := run_mapM_of_fault after hbefore he
    rw [run_fromTable_of_entities hentities, Session.run_bind_of_error (by rw [hall]), hall]

/-- A table tells of all that it lists, or there is a reason to give it up. -/
theorem described_or_tableFault (reader : HintReader) (world : World) (table : TableSource) :
    (∃ es ds last journal, table.entities? world.program = some es ∧
        Describes reader world es ds last journal) ∨
      ∃ fault last journal, TableFault reader world table fault last journal := by
  cases hentities : table.entities? world.program with
  | none =>
    cases table with
    | registration => cases hentities
    | listed entities => cases hentities
    | invalid v => exact .inr ⟨_, _, _, .noTable v⟩
  | some es =>
    rcases describes_or_fault reader world es with ⟨ds, last, journal, hall⟩ |
      ⟨before, e, after, ds, next, journal, fault, last, here, rfl, hbefore, he⟩
    · exact .inl ⟨es, ds, last, journal, rfl, hall⟩
    · exact .inr ⟨_, _, _, .entry hentities hbefore he⟩

/-! ## The modules -/

/-- What the walk through the modules gives: of all that it finds, what can be described. -/
inductive Walks (reader : HintReader) (world : World) (registry : Registry) :
    List Descriptor → World → Journal → Prop where
  | intro {es : List Entity} {ds : List Descriptor} {last : World} {low journal : Journal} :
      (world.program.walk (slotsOf world.program registry.modules?)).run world =
        ⟨.ok es, world, low⟩ → low.IsLow →
      DescribesRest reader world es ds last journal →
      Walks reader world registry (dedupe ds) last (low ++ journal)

/-- What ends the walk: what is no error is raised in a module or while a thing is described. -/
inductive WalkFails (reader : HintReader) (world : World) (registry : Registry) : Prop where
  | module {slot : ModuleSlot} {fault : Fault} :
      slot ∈ slotsOf world.program registry.modules? → world.program.Leaves slot fault →
      WalkFails reader world registry
  | thing {before after : List Entity} {e : Entity} {ds : List Descriptor} {next last : World}
      {low journal here : Journal} {fault : Fault} :
      (world.program.walk (slotsOf world.program registry.modules?)).run world =
        ⟨.ok (before ++ e :: after), world, low⟩ →
      DescribesRest reader world before ds next journal →
      (reader.describe e).run next = ⟨.error fault, last, here⟩ → fault.isError = false →
      WalkFails reader world registry

theorem run_fromModules_of_walks (h : Walks reader world registry ds last journal) :
    (fromModules reader registry.modules?).run world = ⟨.ok ds, last, journal⟩ := by
  obtain ⟨hwalk, -, hrest⟩ := h
  have hall := run_describeEach_of_rest hrest
  simp [fromModules, Session.run_bind, hwalk, hall, Except.map]

theorem exists_fault_of_walkFails (h : WalkFails reader world registry) :
    ∃ fault, ((fromModules reader registry.modules?).run world).result = .error fault := by
  cases h with
  | module hslot hleaves =>
    obtain ⟨fault, low, hwalk, -⟩ := Program.run_walk_of_leaves ⟨_, hslot, _, hleaves⟩ world
    exact ⟨fault, by simp [fromModules, Session.run_bind, hwalk]⟩
  | @thing _ after _ _ _ _ _ _ _ _ hwalk hbefore he hexit =>
    have hall := run_describeEach_of_exit after hbefore he hexit
    exact ⟨_, by simp [fromModules, Session.run_bind, hwalk, hall, Except.map]; rfl⟩

theorem walks_or_fails (reader : HintReader) (world : World) (registry : Registry) :
    (∃ ds last journal, Walks reader world registry ds last journal) ∨
      WalkFails reader world registry := by
  by_cases hleaves : ∃ slot ∈ slotsOf world.program registry.modules?, ∃ fault,
      world.program.Leaves slot fault
  · obtain ⟨slot, hslot, fault, hfault⟩ := hleaves
    exact .inr (.module hslot hfault)
  · obtain ⟨low, hwalk, hlow⟩ := Program.run_walk_of_stays
      (fun slot hslot fault hfault => hleaves ⟨slot, hslot, fault, hfault⟩) world
    rcases describesRest_or_exit reader world
        ((slotsOf world.program registry.modules?).flatMap world.program.found) with
      ⟨ds, last, journal, hrest⟩ |
        ⟨before, e, after, ds, next, journal, fault, last, here, hsplit, hbefore, he, hexit⟩
    · exact .inl ⟨_, _, _, .intro hwalk hlow hrest⟩
    · rw [hsplit] at hwalk
      exact .inr (.thing hwalk hbefore he hexit)

/-! ## Discoveries -/

/-- The warning that a table was given up for a fault that says `text`. -/
def warning (text : String) : Record :=
  ⟨.warning, .registry, some ("Indexed validator lookup failed (" ++ text ++ "); walking modules"),
    none⟩

/-- The outcomes that a discovery may have: the validators, the world that reading hints leaves, and
the records. -/
inductive Discovers (reader : HintReader) (registry : Registry) (world : World) :
    List Descriptor → World → Journal → Prop where
  /-- The table tells of all that it lists. -/
  | table {es : List Entity} {ds : List Descriptor} {last : World} {journal : Journal} :
      registry.usesTable = true → registry.table.entities? world.program = some es →
      Describes reader world es ds last journal →
      Discovers reader registry world (dedupe ds) last journal
  /-- The table is given up with one warning, and the walk gives what it gives. -/
  | fallback {fault : Fault} {text : String} {next last : World} {ds : List Descriptor}
      {before behind : Journal} : registry.usesTable = true →
      TableFault reader world registry.table fault next before → fault.isError = true →
      fault.said = .ok text → Walks reader next registry ds last behind →
      Discovers reader registry world ds last (before ++ warning text :: behind)
  /-- The table is not asked. -/
  | walk {ds : List Descriptor} {last : World} {journal : Journal} : registry.usesTable = false →
      Walks reader world registry ds last journal →
      Discovers reader registry world ds last journal

/-- What keeps a discovery from such an outcome. -/
inductive Fails (reader : HintReader) (registry : Registry) (world : World) : Prop where
  /-- What is no error is raised while an entry of the table is described. -/
  | entry {fault : Fault} {next : World} {journal : Journal} : registry.usesTable = true →
      TableFault reader world registry.table fault next journal → fault.isError = false →
      Fails reader registry world
  /-- The fault for which the table is given up cannot be told in a warning. -/
  | untold {fault other : Fault} {next : World} {journal : Journal} : registry.usesTable = true →
      TableFault reader world registry.table fault next journal → fault.isError = true →
      fault.said = .error other → Fails reader registry world
  /-- What is no error is raised on the walk behind a table that was given up. -/
  | fallback {fault : Fault} {text : String} {next : World} {journal : Journal} :
      registry.usesTable = true →
      TableFault reader world registry.table fault next journal → fault.isError = true →
      fault.said = .ok text → WalkFails reader next registry → Fails reader registry world
  /-- What is no error is raised on the walk. -/
  | walk : registry.usesTable = false → WalkFails reader world registry →
      Fails reader registry world

/-- What stands in the warning is what is noted where the table is given up. -/
theorem fill_lookupFailed (text : String) :
    Record.fill lookupFailed [text] =
      "Indexed validator lookup failed (" ++ text ++ "); walking modules" := by
  apply String.toList_inj.1
  simp [Record.fill, lookupFailed, Record.fillPlaces]

theorem run_discover (h : Discovers reader registry world ds last journal) :
    (discover reader registry).run world = ⟨.ok ds, last, journal⟩ := by
  cases h with
  | table huses hentities hall =>
    have htable := run_fromTable_of_described hentities hall
    simp [discover, huses, Session.run_bind, htable]
  | walk huses hwalks => simp [discover, huses, run_fromModules_of_walks hwalks]
  | fallback huses htable herror hsaid hwalks =>
    have hfault := run_fromTable_of_fault htable
    have hmodules := run_fromModules_of_walks hwalks
    simp [discover, huses, Session.run_bind, hfault, herror, Session.run_noteFault_of_said hsaid,
      fill_lookupFailed, hmodules, warning]

/-- A discovery has one of its outcomes, or something keeps it from that. -/
theorem discovers_or_fails (reader : HintReader) (registry : Registry) (world : World) :
    (∃ ds last journal, Discovers reader registry world ds last journal) ∨
      Fails reader registry world := by
  cases huses : registry.usesTable with
  | false =>
    rcases walks_or_fails reader world registry with ⟨ds, last, journal, hwalks⟩ | hfails
    · exact .inl ⟨ds, last, journal, .walk huses hwalks⟩
    · exact .inr (.walk huses hfails)
  | true =>
    rcases described_or_tableFault reader world registry.table with
      ⟨es, ds, last, journal, hentities, hall⟩ | ⟨fault, next, journal, htable⟩
    · exact .inl ⟨_, _, _, .table huses hentities hall⟩
    · cases herror : fault.isError with
      | false => exact .inr (.entry huses htable herror)
      | true =>
        cases hsaid : fault.said with
        | error other => exact .inr (.untold huses htable herror hsaid)
        | ok text =>
          rcases walks_or_fails reader next registry with ⟨ds, last, behind, hwalks⟩ | hfails
          · exact .inl ⟨_, _, _, .fallback huses htable herror hsaid hwalks⟩
          · exact .inr (.fallback huses htable herror hsaid hfails)

theorem not_walks_of_fails (h : WalkFails reader world registry) :
    ¬ Walks reader world registry ds last journal := by
  intro hwalks
  obtain ⟨fault, hfault⟩ := exists_fault_of_walkFails h
  rw [run_fromModules_of_walks hwalks] at hfault
  cases hfault

/-- A table is given up for one fault only, and in one way. -/
theorem TableFault.unique {other : Fault} {there : World} {more : Journal}
    (h : TableFault reader world table fault last journal)
    (h' : TableFault reader world table other there more) : fault = other ∧ last = there := by
  have hsame := (run_fromTable_of_fault h).symm.trans (run_fromTable_of_fault h')
  cases hsame
  exact ⟨rfl, rfl⟩

theorem TableFault.not_described (h : TableFault reader world table fault next here)
    (hentities : table.entities? world.program = some es) :
    ¬ Describes reader world es ds last journal := by
  intro hall
  cases (run_fromTable_of_fault h).symm.trans (run_fromTable_of_described hentities hall)

theorem not_discovers_of_fails (h : Fails reader registry world) :
    ¬ Discovers reader registry world ds last journal := by
  intro hdiscovers
  cases hdiscovers with
  | table huses hentities hall =>
    cases h with
    | entry _ htable _ => exact htable.not_described hentities hall
    | untold _ htable _ _ => exact htable.not_described hentities hall
    | fallback _ htable _ _ _ => exact htable.not_described hentities hall
    | walk hnot _ => cases huses.symm.trans hnot
  | fallback huses htable herror hsaid hwalks =>
    cases h with
    | entry _ htable' hexit =>
      obtain ⟨rfl, -⟩ := htable.unique htable'
      cases herror.symm.trans hexit
    | untold _ htable' _ huntold =>
      obtain ⟨rfl, -⟩ := htable.unique htable'
      cases hsaid.symm.trans huntold
    | fallback _ htable' _ _ hfails =>
      obtain ⟨rfl, rfl⟩ := htable.unique htable'
      exact not_walks_of_fails hfails hwalks
    | walk hnot _ => cases huses.symm.trans hnot
  | walk huses hwalks =>
    cases h with
    | entry hnot _ _ => cases huses.symm.trans hnot
    | untold hnot _ _ _ => cases huses.symm.trans hnot
    | fallback hnot _ _ _ _ => cases huses.symm.trans hnot
    | walk _ hfails => exact not_walks_of_fails hfails hwalks

end Registry

end Vetting
