import Vetting.Proofs.Validator.History
import Vetting.Proofs.Validator.Registry

/-!
# Vetting.Proofs.Validator.Lookup

The validator that a name stands for. A name may be the qualified name of one validator, the label
of a second and the bare name of a third; the first of these ways in which any validator has it
counts, and of those that have it so the first that was discovered. No two validators have one
qualified name, so each is the one that its own stands for.

* `Registry.findIn_eq_some_iff`: the rule, for a list of descriptors.
* `Host.nodup_validators_after`: what a registry lists, at any time, has different names.
* `Host.find_after`: the rule at any time in the life of a registry.
-/

namespace Vetting

namespace Registry

variable {ds : List Descriptor} {d : Descriptor} {name : String}

/-- The first of some descriptors that has a name in one way. -/
def IsFirst (ds : List Descriptor) (named : Descriptor → String) (name : String)
    (d : Descriptor) : Prop :=
  named d = name ∧ ∃ before after, ds = before ++ d :: after ∧ ∀ e ∈ before, named e ≠ name

/-- No descriptor has a name in one way. -/
def NoneNamed (ds : List Descriptor) (named : Descriptor → String) (name : String) : Prop :=
  ∀ d ∈ ds, named d ≠ name

/-- What a name stands for: the first descriptor that has it in the first way in which any has. -/
inductive StandsFor (ds : List Descriptor) (name : String) (d : Descriptor) : Prop where
  | qualifiedName : IsFirst ds (·.qualifiedName) name d → StandsFor ds name d
  | label : NoneNamed ds (·.qualifiedName) name → IsFirst ds (·.label) name d →
      StandsFor ds name d
  | name : NoneNamed ds (·.qualifiedName) name → NoneNamed ds (·.label) name →
      IsFirst ds (·.name) name d → StandsFor ds name d

theorem find?_eq_some_iff {named : Descriptor → String} :
    ds.find? (named · == name) = some d ↔ IsFirst ds named name d := by
  simp [List.find?_eq_some_iff_append, IsFirst]

theorem find?_eq_none_iff {named : Descriptor → String} :
    ds.find? (named · == name) = none ↔ NoneNamed ds named name := by
  simp [List.find?_eq_none, NoneNamed]

theorem findIn_eq_some_iff : findIn ds name = some d ↔ StandsFor ds name d := by
  simp only [findIn, Option.or_eq_some_iff, Option.or_eq_none_iff, find?_eq_some_iff,
    find?_eq_none_iff]
  constructor
  · rintro ((hqualified | ⟨hnone, hlabel⟩) | ⟨⟨hnone, hnoLabel⟩, hbare⟩)
    · exact .qualifiedName hqualified
    · exact .label hnone hlabel
    · exact .name hnone hnoLabel hbare
  · intro h
    cases h with
    | qualifiedName hqualified => exact .inl (.inl hqualified)
    | label hnone hlabel => exact .inl (.inr ⟨hnone, hlabel⟩)
    | name hnone hnoLabel hbare => exact .inr ⟨⟨hnone, hnoLabel⟩, hbare⟩

end Registry

namespace Host

variable {host : Host} {history : List RegistryStep} {ds : List Descriptor}

/-- What a registry holds behind a question for its validators, it held before or found now. -/
theorem found?_run_validators (h : (validators.run host).state.registry.found? = some ds) :
    host.registry.found? = some ds ∨
      ((host.registry.discover host.reader).run host.toWorld).result = .ok ds := by
  cases hfound : host.registry.found? with
  | some held =>
    rw [run_validators_of_found hfound, hfound] at h
    exact .inl h
  | none =>
    rcases hrun : (host.registry.discover host.reader).run host.toWorld with
      ⟨fault | found, world, journal⟩
    · rw [run_validators_of_error hfound hrun] at h
      cases hfound.symm.trans h
    · rw [run_validators_of_ok hfound hrun] at h
      exact .inr (congrArg Except.ok (Option.some.inj h))

/-- A question leaves the registry as asking for the validators does, whether it is answered or
not. -/
theorem state_query (query : RegistryQuery) :
    (query.perform.run host).state = (validators.run host).state := by
  cases hresult : (validators.run host).result with
  | ok ds => rw [run_query hresult query]
  | error fault =>
    have hfault : ∀ {α : Type} (f : List Descriptor → α),
        (validators >>= fun ds => pure (f ds)).run host =
          ⟨.error fault, (validators.run host).state, (validators.run host).journal⟩ :=
      fun f => Session.run_bind_of_error hresult
    cases query with
    | validators => rw [RegistryQuery.perform, hfault]
    | names =>
      have hnames : names.run host = _ := hfault _
      rw [RegistryQuery.perform, Session.run_bind_of_error (by rw [hnames]), hnames]
    | find name =>
      have hfind : (find name).run host = _ := hfault _
      rw [RegistryQuery.perform, Session.run_bind_of_error (by rw [hfind]), hfind]

theorem state_refresh :
    (RegistryStep.refresh.perform.run host).state =
      (validators.run (Host.clear.run host).state).state := by
  simp [RegistryStep.perform, Host.refresh, Host.clear, Session.run_bind]

/-- What a registry holds, at any time, is what some discovery found. -/
theorem nodup_found?_after (h : (after host history).registry.found? = some ds) :
    (ds.map (·.qualifiedName)).Nodup := by
  induction history with
  | nil => cases h
  | cons step past ih =>
    cases step with
    | clear => cases h
    | change f table modules? => exact ih h
    | refresh =>
      rw [after, state_refresh] at h
      rcases found?_run_validators h with hheld | hfound
      · cases hheld
      · exact Registry.nodup_discover hfound
    | ask query =>
      rw [after, RegistryStep.perform, state_query] at h
      rcases found?_run_validators h with hheld | hfound
      · exact ih hheld
      · exact Registry.nodup_discover hfound

/-- What a registry lists, at any time, has different names. -/
theorem nodup_validators_after (h : (validators.run (after host history)).result = .ok ds) :
    (ds.map (·.qualifiedName)).Nodup := by
  cases hfound : (after host history).registry.found? with
  | none => exact nodup_validators hfound h
  | some held =>
    rw [run_validators_of_found hfound] at h
    obtain rfl : held = ds := Except.ok.inj h
    exact nodup_found?_after hfound

/-- At any time, where a registry lists its validators, it finds each by its qualified name, finds
none for a name exactly when none has it, and else the one that the name stands for. Where it cannot
list them, it raises the same for any name. -/
theorem find_after (host : Host) (history : List RegistryStep) (name : String) :
    match (validators.run (after host history)).result with
    | .ok ds =>
      (∀ d ∈ ds, ((find d.qualifiedName).run (after host history)).result = .ok (some d)) ∧
        (((find name).run (after host history)).result = .ok none ↔
          ∀ d ∈ ds, ¬ d.Answers name) ∧
        ∀ d, ((find name).run (after host history)).result = .ok (some d) ↔
          Registry.StandsFor ds name d
    | .error fault => ((find name).run (after host history)).result = .error fault := by
  cases hds : (validators.run (after host history)).result with
  | error fault => exact congrArg Outcome.result (Session.run_bind_of_error hds)
  | ok ds =>
    have hnodup := nodup_validators_after hds
    refine ⟨?_, ?_, ?_⟩
    · intro d hd
      rw [run_lookup hds, Registry.findIn_qualifiedName hnodup hd]
    · rw [run_lookup hds, Except.ok.injEq, Registry.findIn_eq_none_iff]
    · intro d
      rw [run_lookup hds, Except.ok.injEq, Registry.findIn_eq_some_iff]

end Host

end Vetting
