import Vetting.Proofs.Session
import Vetting.Validator.Registry

/-!
# Vetting.Proofs.Validator.Placement

Where a function stands: under its own name in its module, or in the body of a class of that module.
What is told of a function does not depend on whether one looks at the function itself, at what it
stands as, or at the method that its class gives: the class body is asked in each case.

* `Program.tagged_iff`: the tagged functions of modules, as a list.
* `HintReader.describe_of_own`: what stands for a function is described as the function is.
-/

namespace Vetting

/-- Whether a thing is called without an instance or a class, whatever it stands in. -/
def Entity.isStatic : Entity → Bool
  | .static _ => true
  | _ => false

namespace Program

/-- The parts of a qualified name. -/
def nameParts (qualname : String) : List String :=
  (Text.pieces '.' qualname.toList).map String.ofList

/-- The names among which something of a qualified name stands in its module, and its name there:
those of the module, or those of a class of its own. -/
def place? (program : Program) (m : ValidatorModule) (qualname : String) :
    Option (Names × String) :=
  match nameParts qualname with
  | [name] => some (m.members, name)
  | [outer, name] =>
    match m.members.lookup outer with
    | some (.classRef number) =>
      match program.classes[number]? with
      | some c => if c.home = m.name ∧ outer ≠ "<locals>" then some (c.members, name) else none
      | none => none
    | _ => none
  | _ => none

/-- As what something of a qualified name stands in its module. -/
def standing? (program : Program) (m : ValidatorModule) (qualname : String) : Option Entity :=
  (program.place? m qualname).bind fun (names, key) => names.lookup key

variable {program : Program} {slots : List Nat} {slot number : Nat} {m : ValidatorModule}
  {f : Function} {e : Entity} {qualname key : String} {names : Names}

theorem place?_cases (h : program.place? m qualname = some (names, key)) :
    (nameParts qualname = [key] ∧ names = m.members) ∨
      ∃ outer number c, nameParts qualname = [outer, key] ∧ outer ≠ "<locals>" ∧
        m.members.lookup outer = some (.classRef number) ∧ program.classes[number]? = some c ∧
        c.home = m.name ∧ names = c.members := by
  unfold place? at h
  split at h
  · next name hparts =>
    obtain ⟨rfl, rfl⟩ := Prod.mk.inj (Option.some.inj h)
    exact .inl ⟨hparts, rfl⟩
  · next outer name hparts =>
    split at h
    · next number hclass =>
      split at h
      · next c hnumber =>
        split at h
        · next hown =>
          obtain ⟨rfl, rfl⟩ := Prod.mk.inj (Option.some.inj h)
          exact .inr ⟨outer, number, c, hparts, hown.2, hclass, hnumber, hown.1, rfl⟩
        · cases h
      · cases h
    · cases h
  · cases h

/-! ## Tagged functions -/

/-- A tagged function of one of some modules. -/
structure Tagged (program : Program) (slots : List Nat) (m : ValidatorModule) (number : Nat)
    (f : Function) : Prop where
  isModule : ∃ slot ∈ slots, program.modules[slot]? = some m
  isFunction : program.functions[number]? = some f
  isTagged : f.isTagged = true
  home_eq : f.home = m.name

/-- The tagged functions of some modules. -/
def taggedFunctions (program : Program) (slots : List Nat) :
    List (ValidatorModule × Nat × Function) :=
  (slots.filterMap fun slot => program.modules[slot]?).flatMap fun m =>
    (List.range program.functions.size).filterMap fun number =>
      (program.functions[number]?).bind fun f =>
        if f.isTagged ∧ f.home = m.name then some (m, number, f) else none

theorem tagged_iff :
    program.Tagged slots m number f ↔ (m, number, f) ∈ program.taggedFunctions slots := by
  simp only [taggedFunctions, List.mem_flatMap, List.mem_filterMap, List.mem_range,
    Option.bind_eq_some_iff]
  constructor
  · rintro ⟨⟨slot, hslot, hm⟩, hf, htagged, hhome⟩
    have hlt : number < program.functions.size := (Array.getElem?_eq_some_iff.1 hf).1
    exact ⟨m, ⟨slot, hslot, hm⟩, number, hlt, f, hf, if_pos ⟨htagged, hhome⟩⟩
  · rintro ⟨m', ⟨slot, hslot, hm⟩, number', -, f', hf, hfound⟩
    split at hfound
    · next hboth =>
      obtain ⟨rfl, rfl, rfl⟩ : m' = m ∧ number' = number ∧ f' = f := by simpa using hfound
      exact ⟨⟨slot, hslot, hm⟩, hf, hboth.1, hboth.2⟩
    · cases hfound

/-- A function as the tag saw it: itself, or in what it stands as. -/
inductive AsTagged (program : Program) (m : ValidatorModule) (number : Nat) (f : Function) :
    Entity → Prop where
  | itself : AsTagged program m number f (.function number)
  | standing {e : Entity} : e.unwrap = .function number →
      program.standing? m f.qualname = some e → AsTagged program m number f e

/-- A function as other names may stand for it: as the tag saw it, or bound to its class. -/
inductive Own (program : Program) (m : ValidatorModule) (number : Nat) (f : Function) :
    Entity → Prop where
  | asTagged {e : Entity} : program.AsTagged m number f e → Own program m number f e
  | bound {e : Entity} : isInClass f.qualname = true →
      program.standing? m f.qualname = some e → e.isStatic = false →
      Own program m number f (.bound number)

theorem eq_of_unwrap (h : e.unwrap = .function number) :
    e = .function number ∨ e = .static (.function number) ∨ e = .classBound (.function number) := by
  cases e with
  | function other => exact .inl h
  | static inner => exact .inr (.inl (congrArg Entity.static h))
  | classBound inner => exact .inr (.inr (congrArg Entity.classBound h))
  | _ => cases h

/-! ## Descriptors -/

theorem isInClass_of_single (h : nameParts qualname = [key]) : isInClass qualname = false := by
  rw [nameParts] at h
  rw [isInClass, h]
  rfl

theorem isInClass_of_pair {outer : String} (h : nameParts qualname = [outer, key])
    (houter : outer ≠ "<locals>") : isInClass qualname = true := by
  rw [nameParts] at h
  rw [isInClass, h]
  simpa using houter

section Loaded

variable (hm : program.modules[slot]? = some m) (hloaded : program.loaded.lookup m.name = some slot)
include hm hloaded

/-- A function that stands in a class body is static where it stands as a static function. -/
theorem isStaticByPlace_of_standing (h : program.standing? m qualname = some e)
    (parameters : List String) :
    program.isStaticByPlace m.name qualname parameters =
      .ok (!isInClass qualname || e.isStatic) := by
  obtain ⟨⟨names, key⟩, hplace, hlookup⟩ := Option.bind_eq_some_iff.1 h
  rcases place?_cases hplace with
    ⟨hparts, -⟩ | ⟨outer, number, c, hparts, houter, hclass, hnumber, -, rfl⟩
  · rw [isStaticByPlace, isInClass_of_single hparts]
    rfl
  · have hmodule : program.moduleNamed? m.name = some m := by
      rw [moduleNamed?, hloaded, Option.bind_some, hm]
    have hentry : program.classEntry m.name qualname = .ok (some e) := by
      rw [nameParts] at hparts
      simp only [classEntry, hmodule, hparts]
      simp only [List.dropLast, List.getLast?, List.getLast, hclass, ownerOf, hnumber,
        Option.bind_some, hlookup]
    rw [isStaticByPlace, isInClass_of_pair hparts houter, if_pos rfl, hentry]
    cases e <;> rfl

theorem isStaticFunction_of_standing (hhome : f.home = m.name)
    (h : program.standing? m f.qualname = some e) :
    program.isStaticFunction f none = .ok (!isInClass f.qualname || e.isStatic) := by
  rw [isStaticFunction, hhome]
  exact isStaticByPlace_of_standing hm hloaded h f.parameters

/-- Whatever stands for a function, whether it is static comes out the same. -/
theorem isStaticFunction_of_own (hhome : f.home = m.name)
    (htop : isInClass f.qualname = false →
      program.standing? m f.qualname ≠ some (.classBound (.function number)))
    (h : program.Own m number f e) :
    ∃ isStatic?, functionIn? e = some (number, isStatic?) ∧
      program.isStaticFunction f isStatic? = program.isStaticFunction f none := by
  cases h with
  | bound hclass hstands hstatic =>
    refine ⟨some false, rfl, ?_⟩
    rw [isStaticFunction_of_standing hm hloaded hhome hstands, hclass, hstatic]
    rfl
  | asTagged htagged =>
    cases htagged with
    | itself => exact ⟨none, rfl, rfl⟩
    | standing hunwrap hstands =>
      have hfunction := isStaticFunction_of_standing hm hloaded hhome hstands
      rcases eq_of_unwrap hunwrap with rfl | rfl | rfl
      · exact ⟨none, rfl, rfl⟩
      · refine ⟨some true, rfl, ?_⟩
        rw [hfunction, Entity.isStatic, Bool.or_true]
        rfl
      · refine ⟨some false, rfl, ?_⟩
        cases hclass : isInClass f.qualname with
        | false => exact absurd hstands (htop hclass)
        | true =>
          rw [hfunction, hclass]
          rfl

end Loaded

end Program

namespace HintReader

open Program

variable {reader : HintReader} {world : World} {slot number : Nat} {m : ValidatorModule}
  {f : Function} {e : Entity}

theorem run_describeFunction (hf : world.program.functions[number]? = some f)
    (isStatic? : Option Bool) :
    (reader.describeFunction number isStatic?).run world =
      (Session.run (do
        let isStatic ← Session.ofExcept (world.program.isStaticFunction f isStatic?)
        return functionDescriptor number f isStatic (← reader.returnKind f)) world) := by
  simp [describeFunction, Session.run_bind, hf]

/-- A function is described alike, whatever stands for it. -/
theorem describe_of_own (hm : world.program.modules[slot]? = some m)
    (hloaded : world.program.loaded.lookup m.name = some slot)
    (hf : world.program.functions[number]? = some f) (hhome : f.home = m.name)
    (htop : isInClass f.qualname = false →
      world.program.standing? m f.qualname ≠ some (.classBound (.function number)))
    (h : world.program.Own m number f e) :
    (reader.describe e).run world = (reader.describe (.function number)).run world := by
  obtain ⟨isStatic?, hfunction, hstatic⟩ := isStaticFunction_of_own hm hloaded hhome htop h
  have hitself : functionIn? (.function number) = some (number, none) := rfl
  rw [describe, describe, hfunction, hitself]
  dsimp only
  rw [run_describeFunction hf, run_describeFunction hf, hstatic]

/-- What is told of a function that stands where its name says. -/
theorem run_describe_function (hm : world.program.modules[slot]? = some m)
    (hloaded : world.program.loaded.lookup m.name = some slot)
    (hf : world.program.functions[number]? = some f) (hhome : f.home = m.name)
    (hstands : world.program.standing? m f.qualname = some e) :
    (reader.describe (.function number)).run world =
      (Session.run (do
        return functionDescriptor number f (!isInClass f.qualname || e.isStatic)
          (← reader.returnKind f)) world) := by
  have hitself : functionIn? (.function number) = some (number, none) := rfl
  rw [describe, hitself]
  dsimp only
  rw [run_describeFunction hf, isStaticFunction_of_standing hm hloaded hhome hstands]
  rfl

end HintReader

end Vetting
