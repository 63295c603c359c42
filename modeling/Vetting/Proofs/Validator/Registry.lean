import Vetting.Proofs.Validator.History
import Vetting.Proofs.Validator.Redefinition

/-!
# Vetting.Proofs.Validator.Registry

The validators that are found have different qualified names, so each is the one that its qualified
name stands for. A name stands for none exactly when no validator has it.
-/

namespace Vetting

/-- A name that a validator answers to. -/
def Descriptor.Answers (d : Descriptor) (name : String) : Prop :=
  d.qualifiedName = name ∨ d.label = name ∨ d.name = name

namespace Registry

variable {d : Descriptor} {ds : List Descriptor}

theorem nodup_fromTable {reader : HintReader} {table : TableSource} {world : World}
    (h : ((fromTable reader table).run world).result = .ok ds) :
    (ds.map (·.qualifiedName)).Nodup := by
  simp only [fromTable, Session.run_bind_eq_ok_iff, Session.run_pure, Except.ok.injEq] at h
  obtain ⟨_, -, _, -, all, -, rfl⟩ := h
  exact nodup_dedupe all

theorem nodup_fromModules {reader : HintReader} {modules? : Option (List ModuleSlot)}
    {world : World} (h : ((fromModules reader modules?).run world).result = .ok ds) :
    (ds.map (·.qualifiedName)).Nodup := by
  simp only [fromModules, Session.run_bind_eq_ok_iff, Session.run_pure, Except.ok.injEq] at h
  obtain ⟨_, -, _, -, all, -, rfl⟩ := h
  exact nodup_dedupe all

/-- However a discovery comes about, what it finds has different names. -/
theorem nodup_discover {reader : HintReader} {registry : Registry} {world : World}
    (h : ((discover reader registry).run world).result = .ok ds) :
    (ds.map (·.qualifiedName)).Nodup := by
  unfold discover at h
  split at h
  · obtain ⟨ending, hending, h⟩ := Session.run_bind_eq_ok_iff.1 h
    rw [Session.run_attempt, Except.ok.injEq] at hending
    cases ending with
    | ok found =>
      obtain rfl : found = ds := Except.ok.inj h
      exact nodup_fromTable hending
    | error fault =>
      dsimp only at h
      split at h
      · obtain ⟨_, -, h⟩ := Session.run_bind_eq_ok_iff.1 h
        exact nodup_fromModules h
      · cases h
  · exact nodup_fromModules h

theorem find?_qualifiedName (hnodup : (ds.map (·.qualifiedName)).Nodup) (hd : d ∈ ds) :
    ds.find? (·.qualifiedName == d.qualifiedName) = some d := by
  induction ds with
  | nil => cases hd
  | cons e rest ih =>
    rw [List.map_cons, List.nodup_cons] at hnodup
    rcases List.mem_cons.1 hd with rfl | hrest
    · simp
    · have hother : e.qualifiedName ≠ d.qualifiedName := by
        intro hsame
        exact hnodup.1 (List.mem_map.2 ⟨d, hrest, hsame.symm⟩)
      rw [List.find?_cons_of_neg (by simpa using hother)]
      exact ih hnodup.2 hrest

theorem findIn_qualifiedName (hnodup : (ds.map (·.qualifiedName)).Nodup) (hd : d ∈ ds) :
    findIn ds d.qualifiedName = some d := by
  rw [findIn, find?_qualifiedName hnodup hd]
  rfl

theorem findIn_eq_none_iff {name : String} :
    findIn ds name = none ↔ ∀ d ∈ ds, ¬ d.Answers name := by
  simp only [findIn, Option.or_eq_none_iff, List.find?_eq_none, beq_iff_eq, Descriptor.Answers,
    not_or]
  constructor
  · rintro ⟨⟨hqualified, hlabel⟩, hname⟩ d hd
    exact ⟨hqualified d hd, hlabel d hd, hname d hd⟩
  · intro h
    exact ⟨⟨fun d hd => (h d hd).1, fun d hd => (h d hd).2.1⟩, fun d hd => (h d hd).2.2⟩

end Registry

namespace Host

variable {host : Host} {ds : List Descriptor}

/-- A registry that has not looked yet finds validators of different qualified names. -/
theorem nodup_validators (hnew : host.registry.found? = none)
    (h : (validators.run host).result = .ok ds) : (ds.map (·.qualifiedName)).Nodup := by
  rcases hrun : (host.registry.discover host.reader).run host.toWorld with
    ⟨fault | found, world, journal⟩
  · rw [run_validators_of_error hnew hrun] at h
    cases h
  · rw [run_validators_of_ok hnew hrun] at h
    obtain rfl : found = ds := Except.ok.inj h
    exact Registry.nodup_discover (congrArg Outcome.result hrun)

end Host

end Vetting
