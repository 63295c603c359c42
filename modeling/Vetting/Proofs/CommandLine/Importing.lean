import Vetting.CommandLine
import Vetting.Proofs.Session

/-!
# Vetting.Proofs.CommandLine.Importing

The imports of a command line. They take place one after another, each in the console that those
before it leave. An import that raises an error is told of, and the others still take place. What
is no error ends the program at once, and so does an error that cannot be told of.

* `exists_importAll_iff`, `importAll_of_fails`: how the imports end, from how each of them ends.
* `onlyWorld_importAll`: imports change nothing but what the host acts on.
-/

namespace Vetting

/-- An import that took place: the name of the module, and how it ended. -/
structure Import where
  name : String
  ending : Except Fault Unit

namespace Import

/-- The import raises an error. -/
def Fails (i : Import) : Prop :=
  ∃ fault : Fault, i.ending = .error fault ∧ fault.isError = true

/-- What ends the program at an import: what it raises that is no error, or what is raised while it
is told that the module could not be imported. -/
def leaving? (i : Import) : Option Fault :=
  match i.ending with
  | .ok () => none
  | .error fault =>
    if fault.isError then
      (Record.ofFault .error .commands Console.importFailed [(i.name, Text.quoted i.name)] fault
        false).2
    else some fault

/-- The import ends the program. -/
def Leaves (i : Import) : Prop := ∃ fault, i.leaving? = some fault

/-- Whether the module is there. -/
def isThere (i : Import) : Bool :=
  match i.ending with
  | .ok () => true
  | .error _ => false

theorem isThere_eq_true_iff (i : Import) : i.isThere = true ↔ i.ending = .ok () := by
  rw [isThere]
  split <;> simp [*]

/-- An error that says something is told of. -/
theorem not_leaves_of_said {i : Import} {fault : Fault} {text : String}
    (hending : i.ending = .error fault) (herror : fault.isError = true)
    (hsaid : fault.said = .ok text) : ¬ i.Leaves := by
  rintro ⟨other, hother⟩
  simp [leaving?, hending, herror, Record.ofFault_of_said hsaid] at hother

end Import

namespace Console

variable {α β : Type} {name : String} {names : List String} {console : Console}

/-! ## How imports end -/

/-- The imports of some modules that take place, up to the first that ends the program. -/
def imports (console : Console) : List String → List Import
  | [] => []
  | name :: rest =>
    let outcome := (importModule name).run console
    let first : Import := ⟨name, outcome.result⟩
    first :: if first.leaving?.isSome then [] else imports outcome.state rest

/-- The first import of several, and how the others go on behind it. -/
theorem run_importAll_cons (name : String) (rest : List String) (console : Console) :
    let outcome := (importModule name).run console
    let first : Import := ⟨name, outcome.result⟩
    let others := (importAll rest).run outcome.state
    (((importAll (name :: rest)).run console).result =
        match first.leaving? with
        | some fault => .error fault
        | none => others.result.map (first.isThere && ·)) ∧
      ((importAll (name :: rest)).run console).state =
        if first.leaving?.isSome then outcome.state else others.state := by
  dsimp only
  rcases hfirst : (importModule name).run console with ⟨ending, after, journal⟩
  cases ending with
  | ok there =>
    simp [importAll, Session.run_bind, hfirst, Import.leaving?, Import.isThere]
    rfl
  | error fault =>
    cases herror : fault.isError with
    | false => simp [importAll, Session.run_bind, hfirst, Import.leaving?, herror]
    | true =>
      cases htrouble : (Record.ofFault .error .commands importFailed [(name, Text.quoted name)]
          fault false).2 with
      | some trouble =>
        simp [importAll, Session.run_bind, hfirst, Import.leaving?, herror, htrouble,
          Session.run_noteFault]
      | none =>
        simp [importAll, Session.run_bind, hfirst, Import.leaving?, Import.isThere, herror,
          htrouble, Session.run_noteFault]
        rfl

/-- All imports are tried exactly when none ends the program. -/
theorem exists_importAll_iff :
    (∃ areThere, ((importAll names).run console).result = .ok areThere) ↔
      ∀ i ∈ imports console names, ¬ i.Leaves := by
  induction names generalizing console with
  | nil => simp [importAll, imports]
  | cons name rest ih =>
    rw [(run_importAll_cons name rest console).1, imports]
    cases hleaving : Import.leaving? ⟨name, ((importModule name).run console).result⟩ with
    | some fault => simp [Import.Leaves, hleaving]
    | none =>
      -- the first is told of, and whether all are tried is up to the others
      have hothers := @ih ((importModule name).run console).state
      cases hrest : ((importAll rest).run ((importModule name).run console).state).result <;>
        simpa [Except.map, Import.Leaves, hleaving, hrest] using hothers

theorem importAll_eq_true_iff {areThere : Bool}
    (h : ((importAll names).run console).result = .ok areThere) :
    areThere = true ↔ ∀ i ∈ imports console names, i.ending = .ok () := by
  induction names generalizing console areThere with
  | nil =>
    cases h
    simp [imports]
  | cons name rest ih =>
    rw [(run_importAll_cons name rest console).1] at h
    rw [imports]
    cases hleaving : Import.leaving? ⟨name, ((importModule name).run console).result⟩ with
    | some fault => simp [hleaving] at h
    | none =>
      cases hrest : ((importAll rest).run ((importModule name).run console).state).result with
      | error fault => simp [hleaving, hrest, Except.map] at h
      | ok others =>
        simp only [hleaving, hrest, Except.map, Except.ok.injEq] at h
        simp [← h, Import.isThere_eq_true_iff, ih hrest]

/-- Imports of which one fails end the run as broken, but for one that ends the program. -/
theorem importAll_of_fails (h : ∃ i ∈ imports console names, i.Fails) :
    ((importAll names).run console).result = .ok false ↔
      ∀ i ∈ imports console names, ¬ i.Leaves := by
  rw [← exists_importAll_iff]
  constructor
  · intro hfalse
    exact ⟨false, hfalse⟩
  · rintro ⟨areThere, hresult⟩
    cases areThere with
    | false => exact hresult
    | true =>
      obtain ⟨i, hmem, fault, hfault, -⟩ := h
      have hthere := (importAll_eq_true_iff hresult).1 rfl i hmem
      cases hfault.symm.trans hthere

/-! ## What imports change -/

/-- A step changes nothing but what the host acts on, however it ends. -/
def OnlyWorld (step : Session Console α) : Prop :=
  ∀ console : Console, ∃ world : World,
    (step.run console).state = { console with host := { console.host with toWorld := world } }

theorem OnlyWorld.bind {first : Session Console α} {next : α → Session Console β}
    (hfirst : OnlyWorld first) (hnext : ∀ a, OnlyWorld (next a)) :
    OnlyWorld (first >>= next) := by
  intro console
  obtain ⟨world, hstate⟩ := hfirst console
  rw [Session.run_bind]
  cases hresult : (first.run console).result with
  | error fault => exact ⟨world, hstate⟩
  | ok a =>
    obtain ⟨further, hfurther⟩ := hnext a (first.run console).state
    refine ⟨further, ?_⟩
    rw [hfurther, hstate]

theorem OnlyWorld.of_unchanged {step : Session Console α}
    (h : ∀ console, (step.run console).state = console) : OnlyWorld step :=
  fun console => ⟨console.host.toWorld, h console⟩

theorem OnlyWorld.onWorld (step : Session World α) : OnlyWorld (onHost (Host.onWorld step)) :=
  fun console => ⟨(step.run console.host.toWorld).state, rfl⟩

theorem onlyWorld_importOne (name : String) : OnlyWorld (importOne name) := by
  unfold importOne
  refine .bind (.of_unchanged fun _ => rfl) fun console => ?_
  split
  · exact .of_unchanged fun _ => rfl
  · split
    · exact .onWorld _
    · split <;> exact .of_unchanged fun _ => rfl

theorem onlyWorld_importModule (name : String) : OnlyWorld (importModule name) := by
  unfold importModule
  split
  · exact .of_unchanged fun _ => rfl
  · exact .of_unchanged fun _ => rfl
  · generalize withParents "" ((Text.pieces '.' name.toList).map String.ofList) = parts
    induction parts with
    | nil => exact .of_unchanged fun _ => rfl
    | cons part rest ih => exact .bind (onlyWorld_importOne part) fun _ => ih

theorem onlyWorld_importAll (names : List String) : OnlyWorld (importAll names) := by
  induction names with
  | nil => exact .of_unchanged fun _ => rfl
  | cons name rest ih =>
    intro console
    rw [(run_importAll_cons name rest console).2]
    obtain ⟨world, hfirst⟩ := onlyWorld_importModule name console
    obtain ⟨further, hothers⟩ := ih ((importModule name).run console).state
    split
    · exact ⟨world, hfirst⟩
    · exact ⟨further, by rw [hothers, hfirst]⟩

end Console

end Vetting
