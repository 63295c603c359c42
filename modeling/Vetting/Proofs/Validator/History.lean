import Vetting.Proofs.Validator.Discovery
import Vetting.Validator.Host

/-!
# Vetting.Proofs.Validator.History

Runs of a registry. Whatever is asked of it, it answers from its most recent discovery, and a
discovery is made when the registry is refreshed, when it is asked and has none, and never else. So
what was done to the table and the modules since does not show in an answer. All that holds as long
as nothing keeps a discovery from its outcome.

* `RegistryStep.lastDiscovery?`: the most recent discovery of a history.
* `Host.run_validators_of_ok`, `Host.run_step_of_discovers`, `Host.run_step_of_idle`: one step.
* `Host.holds_after`: what a registry holds after a history, by induction on the history.
* `Host.isAnswered_iff`: each step of a history answers, writes and leaves what it should exactly
  when nothing keeps one of its discoveries from its outcome.
-/

namespace Vetting

/-- What is asked of a registry. -/
inductive RegistryQuery where
  | validators
  | names
  | find (name : String)
  deriving Repr

/-- Something that is done to a registry. -/
inductive RegistryStep where
  | ask (query : RegistryQuery)
  | refresh
  | clear
  /-- Change in any way what is registered, the modules, and what the registry was given of them. -/
  | change (f : Program → Program) (table : TableSource) (modules? : Option (List ModuleSlot))

/-- What a registry answers. -/
inductive RegistryAnswer where
  | validators (ds : List Descriptor)
  | names (names : List String)
  | found (d? : Option Descriptor)
  | done
  deriving Repr

namespace RegistryQuery

/-- Ask a registry. -/
def perform : RegistryQuery → Session Host RegistryAnswer
  | validators => return .validators (← Host.validators)
  | names => return .names (← Host.names)
  | find name => return .found (← Host.find name)

/-- The answer from some validators. -/
def answerFrom (ds : List Descriptor) : RegistryQuery → RegistryAnswer
  | validators => .validators ds
  | names => .names (ds.map (·.qualifiedName))
  | find name => .found (Registry.findIn ds name)

end RegistryQuery

namespace RegistryStep

/-- Do something to a registry. -/
def perform : RegistryStep → Session Host RegistryAnswer
  | ask query => query.perform
  | refresh => return .validators (← Host.refresh)
  | clear => do
    Host.clear
    return .done
  | change f table modules? => do
    Session.modify fun host =>
      { host with program := f host.program, registry := { host.registry with table, modules? } }
    return .done

/-- The answer from some validators. -/
def answerFrom (ds : List Descriptor) : RegistryStep → RegistryAnswer
  | ask query => query.answerFrom ds
  | refresh => .validators ds
  | clear | change _ _ _ => .done

/-- What a step does to the world by itself. -/
def changed : RegistryStep → World → World
  | change f _ _, world => { world with program := f world.program }
  | ask _, world | refresh, world | clear, world => world

/-- The most recent discovery of a history since the last clear, if there is one: what was done
before it. The latest step of a history stands first. -/
def lastDiscovery? : List RegistryStep → Option (List RegistryStep)
  | [] => none
  | clear :: _ => none
  | change _ _ _ :: earlier => lastDiscovery? earlier
  | refresh :: earlier => some earlier
  | ask _ :: earlier => some ((lastDiscovery? earlier).getD earlier)

/-- Whether a step makes a discovery: each refresh does, and each question behind which there is
none. -/
def discovers (past : List RegistryStep) : RegistryStep → Bool
  | ask _ => (lastDiscovery? past).isNone
  | refresh => true
  | clear | change _ _ _ => false

end RegistryStep

namespace Host

open RegistryStep

/-- A host after a history of its registry, which starts as a new one. -/
def after (host : Host) : List RegistryStep → Host
  | [] => { host with registry := { host.registry with found? := none } }
  | step :: earlier => (step.perform.run (after host earlier)).state

/-- The outcome that looking for validators now has. -/
def Discovers (host : Host) (ds : List Descriptor) (world : World) (journal : Journal) : Prop :=
  Registry.Discovers host.reader host.registry host.toWorld ds world journal

/-- Something keeps looking for validators now from its outcome. -/
def Fails (host : Host) : Prop := Registry.Fails host.reader host.registry host.toWorld

/-- The host when looking for validators has found some and left a world. -/
def holding (host : Host) (ds : List Descriptor) (world : World) : Host :=
  { host with toWorld := world, registry := { host.registry with found? := some ds } }

/-- The promises of a registry, kept all along a history. -/
structure IsAnswered (host : Host) (history : List RegistryStep) : Prop where
  /-- What is asked is answered from the most recent discovery, which reads the table and the
  modules as they are when it is made, and which the registry holds from then on. -/
  answered : ∀ {step past before}, step :: past <:+ history →
    lastDiscovery? (step :: past) = some before →
    ∃ ds world journal, (after host before).Discovers ds world journal ∧
      (step.perform.run (after host past)).result = .ok (step.answerFrom ds) ∧
      (after host (step :: past)).registry.found? = some ds
  /-- Where there is no discovery, nothing was asked, and nothing is held. -/
  unasked : ∀ {step past}, step :: past <:+ history → lastDiscovery? (step :: past) = none →
    (step.perform.run (after host past)).result = .ok .done ∧
      (after host (step :: past)).registry.found? = none
  /-- A step that makes a discovery writes and leaves what that does. -/
  discovering : ∀ {step past}, step :: past <:+ history → step.discovers past = true →
    ∃ ds world journal, (after host past).Discovers ds world journal ∧
      (step.perform.run (after host past)).journal = journal ∧
      (after host (step :: past)).toWorld = world
  /-- No other step looks for anything. -/
  idle : ∀ {step past}, step :: past <:+ history → step.discovers past = false →
    (step.perform.run (after host past)).journal = [] ∧
      (after host (step :: past)).toWorld = step.changed (after host past).toWorld
  /-- Whether the table is asked is settled once. -/
  settled : ∀ {past}, past <:+ history →
    (after host past).registry.usesTable = host.registry.usesTable

/-! ## One step -/

section

variable {host : Host} {ds : List Descriptor} {world : World} {journal : Journal}

theorem run_validators_of_found (h : host.registry.found? = some ds) :
    validators.run host = ⟨.ok ds, host, []⟩ := by
  simp [validators, Session.run_bind, h]

theorem run_validators_of_ok (h : host.registry.found? = none)
    (hrun : (host.registry.discover host.reader).run host.toWorld = ⟨.ok ds, world, journal⟩) :
    validators.run host = ⟨.ok ds, host.holding ds world, journal⟩ := by
  simp [validators, Session.run_bind, h, onWorld, hrun, holding, Except.map]

theorem run_validators_of_error {fault : Fault} (h : host.registry.found? = none)
    (hrun : (host.registry.discover host.reader).run host.toWorld =
      ⟨.error fault, world, journal⟩) :
    validators.run host = ⟨.error fault, { host with toWorld := world }, journal⟩ := by
  simp [validators, Session.run_bind, h, onWorld, hrun]

theorem run_names (h : (validators.run host).result = .ok ds) :
    names.run host = ⟨.ok (ds.map (·.qualifiedName)), (validators.run host).state,
      (validators.run host).journal⟩ :=
  Session.run_bind_pure _ h

theorem run_lookup (h : (validators.run host).result = .ok ds) (name : String) :
    (find name).run host = ⟨.ok (Registry.findIn ds name), (validators.run host).state,
      (validators.run host).journal⟩ :=
  Session.run_bind_pure _ h

/-- Each question is answered from the validators, and does nothing beside asking for them. -/
theorem run_query (h : (validators.run host).result = .ok ds) (query : RegistryQuery) :
    query.perform.run host =
      ⟨.ok (query.answerFrom ds), (validators.run host).state, (validators.run host).journal⟩ := by
  cases query with
  | validators => exact Session.run_bind_pure _ h
  | names =>
    rw [RegistryQuery.perform, Session.run_bind_pure _ (by rw [run_names h]), run_names h]
    rfl
  | find name =>
    rw [RegistryQuery.perform, Session.run_bind_pure _ (by rw [run_lookup h]), run_lookup h]
    rfl

theorem run_refresh (hdiscovers : host.Discovers ds world journal) :
    RegistryStep.refresh.perform.run host =
      ⟨.ok (.validators ds), host.holding ds world, journal⟩ := by
  have hrun := Registry.run_discover hdiscovers
  have hcleared : (Registry.discover host.reader { host.registry with found? := none }).run
      host.toWorld = ⟨.ok ds, world, journal⟩ := hrun
  simp [perform, Host.refresh, Host.clear, validators, Session.run_bind, onWorld, hcleared, holding,
    Except.map]

end

/-! ## Histories -/

variable (host : Host)

/-- What a registry holds after a history: what its most recent discovery found. -/
def Holds (history : List RegistryStep) : Prop :=
  match lastDiscovery? history with
  | some before => ∃ ds world journal, (after host before).Discovers ds world journal ∧
      (after host history).registry.found? = some ds
  | none => (after host history).registry.found? = none

/-- Nothing keeps a discovery of a history from its outcome. -/
def IsUndisturbed (history : List RegistryStep) : Prop :=
  ∀ step past, step :: past <:+ history → step.discovers past = true → ¬ (after host past).Fails

variable {host} {step : RegistryStep} {past history : List RegistryStep}

theorem IsUndisturbed.of_suffix (h : IsUndisturbed host history) (hsuffix : past <:+ history) :
    IsUndisturbed host past :=
  fun step earlier hstep => h step earlier (hstep.trans hsuffix)

/-- A step that makes a discovery. -/
theorem run_step_of_discovers {ds : List Descriptor} {world : World} {journal : Journal}
    (hholds : Holds host past) (hstep : step.discovers past = true)
    (h : (after host past).Discovers ds world journal) :
    step.perform.run (after host past) =
        ⟨.ok (step.answerFrom ds), (after host past).holding ds world, journal⟩ ∧
      lastDiscovery? (step :: past) = some past := by
  cases step with
  | clear => cases hstep
  | change f table modules? => cases hstep
  | refresh => exact ⟨run_refresh h, rfl⟩
  | ask query =>
    have hlast : lastDiscovery? past = none := by simpa [RegistryStep.discovers] using hstep
    rw [Holds, hlast] at hholds
    have hvalidators := run_validators_of_ok hholds (Registry.run_discover h)
    refine ⟨?_, by simp [lastDiscovery?, hlast]⟩
    rw [perform, run_query (by rw [hvalidators]), hvalidators]
    rfl

/-- A step that makes none leaves what was found, and answers from that. -/
theorem run_step_of_idle (hholds : Holds host past) (hstep : step.discovers past = false) :
    ∃ state, step.perform.run (after host past) =
        ⟨.ok (step.answerFrom ((after host past).registry.found?.getD [])), state, []⟩ ∧
      state.toWorld = step.changed (after host past).toWorld ∧
      state.registry.usesTable = (after host past).registry.usesTable ∧
      state.registry.found? =
        if (lastDiscovery? (step :: past)).isSome then (after host past).registry.found?
        else none := by
  cases step with
  | clear => exact ⟨_, rfl, rfl, rfl, rfl⟩
  | change f table modules? =>
    refine ⟨{ after host past with
      program := f (after host past).program
      registry := { (after host past).registry with table, modules? } }, rfl, rfl, rfl, ?_⟩
    rw [Holds] at hholds
    cases hlast : lastDiscovery? past with
    | some before => simp [lastDiscovery?, hlast]
    | none =>
      rw [hlast] at hholds
      simpa [lastDiscovery?, hlast] using hholds
  | refresh => cases hstep
  | ask query =>
    obtain ⟨before, hlast⟩ : ∃ before, lastDiscovery? past = some before := by
      simpa [RegistryStep.discovers, Option.isNone_eq_false_iff, Option.isSome_iff_exists]
        using hstep
    rw [Holds, hlast] at hholds
    obtain ⟨ds, world, journal, -, hfound⟩ := hholds
    have hvalidators := run_validators_of_found hfound
    refine ⟨after host past, ?_, rfl, rfl, by simp [lastDiscovery?]⟩
    rw [perform, run_query (by rw [hvalidators]), hvalidators, hfound]
    rfl

theorem lastDiscovery?_of_idle (hstep : step.discovers past = false)
    {before : List RegistryStep} (h : lastDiscovery? (step :: past) = some before) :
    lastDiscovery? past = some before := by
  cases step with
  | clear => cases h
  | change f table modules? => exact h
  | refresh => cases hstep
  | ask query =>
    obtain ⟨earlier, hlast⟩ : ∃ earlier, lastDiscovery? past = some earlier := by
      simpa [RegistryStep.discovers, Option.isNone_eq_false_iff, Option.isSome_iff_exists]
        using hstep
    simpa [lastDiscovery?, hlast] using h

/-- A registry holds what its most recent discovery found. -/
theorem holds_after (h : IsUndisturbed host history) : Holds host history := by
  induction history with
  | nil => rfl
  | cons step past ih =>
    have hholds := ih (h.of_suffix (List.suffix_cons step past))
    cases hstep : step.discovers past with
    | true =>
      rcases Registry.discovers_or_fails (after host past).reader (after host past).registry
        (after host past).toWorld with ⟨ds, world, journal, hdiscovers⟩ | hfails
      · obtain ⟨hrun, hlast⟩ := run_step_of_discovers hholds hstep hdiscovers
        rw [Holds, hlast, after, hrun]
        exact ⟨ds, world, journal, hdiscovers, rfl⟩
      · exact absurd hfails (h step past (List.suffix_refl _) hstep)
    | false =>
      obtain ⟨state, hrun, -, -, hfound⟩ := run_step_of_idle hholds hstep
      rw [Holds, after, hrun, hfound]
      cases hlast : lastDiscovery? (step :: past) with
      | none => rfl
      | some before =>
        rw [Holds, lastDiscovery?_of_idle hstep hlast] at hholds
        exact hholds

theorem usesTable_after (h : IsUndisturbed host history) :
    (after host history).registry.usesTable = host.registry.usesTable := by
  induction history with
  | nil => rfl
  | cons step past ih =>
    have hpast := h.of_suffix (List.suffix_cons step past)
    have hholds := holds_after hpast
    rw [← ih hpast, after]
    cases hstep : step.discovers past with
    | true =>
      rcases Registry.discovers_or_fails (after host past).reader (after host past).registry
        (after host past).toWorld with ⟨ds, world, journal, hdiscovers⟩ | hfails
      · rw [(run_step_of_discovers hholds hstep hdiscovers).1]
        rfl
      · exact absurd hfails (h step past (List.suffix_refl _) hstep)
    | false =>
      obtain ⟨state, hrun, -, huses, -⟩ := run_step_of_idle hholds hstep
      rw [hrun, huses]

/-- A registry keeps its promises along a history exactly when nothing keeps one of its discoveries
from its outcome: no hint, no module and no thing that is described raises what is no error, and a
fault for which the table is given up can be told. -/
theorem isAnswered_iff (host : Host) (history : List RegistryStep) :
    IsAnswered host history ↔ IsUndisturbed host history := by
  constructor
  · intro h step past hsuffix hstep hfails
    obtain ⟨ds, world, journal, hdiscovers, -⟩ := h.discovering hsuffix hstep
    exact Registry.not_discovers_of_fails hfails hdiscovers
  · intro h
    have hpast : ∀ {step past}, step :: past <:+ history → Holds host past := fun hsuffix =>
      holds_after (IsUndisturbed.of_suffix h ((List.suffix_cons _ _).trans hsuffix))
    have hdiscovers : ∀ {step past}, step :: past <:+ history → step.discovers past = true →
        ∃ ds world journal, (after host past).Discovers ds world journal := by
      intro step past hsuffix hstep
      rcases Registry.discovers_or_fails (after host past).reader (after host past).registry
        (after host past).toWorld with hfound | hfails
      · exact hfound
      · exact absurd hfails (h step past hsuffix hstep)
    refine ⟨?_, ?_, ?_, ?_, fun hsuffix => usesTable_after (IsUndisturbed.of_suffix h hsuffix)⟩
    · intro step past before hsuffix hlast
      have hholds := hpast hsuffix
      cases hstep : step.discovers past with
      | true =>
        obtain ⟨ds, world, journal, hfound⟩ := hdiscovers hsuffix hstep
        obtain ⟨hrun, hown⟩ := run_step_of_discovers hholds hstep hfound
        obtain rfl := Option.some.inj (hown.symm.trans hlast)
        refine ⟨ds, world, journal, hfound, by rw [hrun], ?_⟩
        rw [after, hrun]
        rfl
      | false =>
        obtain ⟨state, hrun, -, -, hkept⟩ := run_step_of_idle hholds hstep
        rw [Holds, lastDiscovery?_of_idle hstep hlast] at hholds
        obtain ⟨ds, world, journal, hfound, hheld⟩ := hholds
        rw [hlast, hheld] at hkept
        refine ⟨ds, world, journal, hfound, by rw [hrun, hheld]; rfl, ?_⟩
        rw [after, hrun]
        exact hkept
    · intro step past hsuffix hlast
      cases hstep : step.discovers past with
      | true =>
        obtain ⟨ds, world, journal, hfound⟩ := hdiscovers hsuffix hstep
        cases (run_step_of_discovers (hpast hsuffix) hstep hfound).2.symm.trans hlast
      | false =>
        obtain ⟨state, hrun, -, -, hkept⟩ := run_step_of_idle (hpast hsuffix) hstep
        rw [hlast] at hkept
        refine ⟨?_, by rw [after, hrun]; exact hkept⟩
        rw [hrun]
        cases step with
        | ask query => cases hlast
        | refresh => cases hlast
        | clear => rfl
        | change f table modules? => rfl
    · intro step past hsuffix hstep
      obtain ⟨ds, world, journal, hfound⟩ := hdiscovers hsuffix hstep
      have hrun := (run_step_of_discovers (hpast hsuffix) hstep hfound).1
      refine ⟨ds, world, journal, hfound, by rw [hrun], ?_⟩
      rw [after, hrun]
      rfl
    · intro step past hsuffix hstep
      obtain ⟨state, hrun, hworld, -⟩ := run_step_of_idle (hpast hsuffix) hstep
      exact ⟨by rw [hrun], by rw [after, hrun]; exact hworld⟩

/-- A program of a function `m.f` with one reply and a tagged one `m.g` that hints the call of
it. -/
def ofHint (reply : Reply) : Program where
  functions := #[
    { home := "m", qualname := "f", body := .script 0, moduleNumber := 0 },
    { home := "m", qualname := "g", returnHint := some (.value (.text "f()")), isTagged := true
      body := .script 1, moduleNumber := 0 }]
  modules := #[⟨"m", [("f", .function 0), ("g", .function 1)]⟩]
  scripts := #[[reply], []]
  loaded := [("m", 0)]
  table := [.function 1]

/-- The function that the hint calls leaves the program, and the validators are asked for. -/
theorem not_isAnswered_exiting :
    ¬ IsAnswered
      { program := ofHint (.raises (.raised "SystemExit" [.int 3]))
        workspace := { tree := ⟨[], []⟩ } }
      [.ask .validators] := by
  intro h
  obtain ⟨ds, -, -, -, hresult, -⟩ := h.answered (List.suffix_refl _) rfl
  cases hresult

end Host

end Vetting
