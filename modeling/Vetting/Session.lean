import Vetting.Journal

/-!
# Vetting.Session

A step of a session on a state `σ`: it ends in a value or a fault, in a new state either way, and
adds records to the journal. Steps are joined as a monad; a fault ends the joined step, and what was
changed and written before it stays. The lemmas give the outcome of each way to join steps.
-/

namespace Vetting

/-- How a step of a session ends. -/
structure Outcome (σ α : Type) where
  result : Except Fault α
  state : σ
  journal : Journal

/-- A step of a session on a state. -/
def Session (σ α : Type) := σ → Outcome σ α

namespace Session

variable {σ τ α β : Type}

/-- Run a step from a state. -/
def run (step : Session σ α) (s : σ) : Outcome σ α := step s

/-- The step that gives a value and changes nothing. -/
def give (a : α) : Session σ α := fun s => ⟨.ok a, s, []⟩

/-- One step and then another, which sees the value of the first. -/
def andThen (first : Session σ α) (next : α → Session σ β) : Session σ β := fun s =>
  let o := first s
  match o.result with
  | .error f => ⟨.error f, o.state, o.journal⟩
  | .ok a =>
    let p := next a o.state
    ⟨p.result, p.state, o.journal ++ p.journal⟩

instance : Monad (Session σ) where
  pure := give
  bind := andThen

/-- The step that ends in a fault. -/
def fail (f : Fault) : Session σ α := fun s => ⟨.error f, s, []⟩

/-- The state. -/
def get : Session σ σ := fun s => ⟨.ok s, s, []⟩

/-- A new state. -/
def set (s : σ) : Session σ Unit := fun _ => ⟨.ok (), s, []⟩

/-- A changed state. -/
def modify (change : σ → σ) : Session σ Unit := fun s => ⟨.ok (), change s, []⟩

/-- Write records. -/
def write (records : Journal) : Session σ Unit := fun s => ⟨.ok (), s, records⟩

/-- Write one record. -/
def note (level : Level) (channel : Channel) (message : String) : Session σ Unit :=
  write [⟨level, channel, some message, none⟩]

/-- Write one record that holds some texts and what a caught fault says, as `Record.ofFault` has
it. -/
def noteFault (level : Level) (channel : Channel) (template : String)
    (others : List (String × String)) (fault : Fault) (inFull : Bool := false) :
    Session σ Unit := fun s =>
  match Record.ofFault level channel template others fault inFull with
  | (journal, none) => ⟨.ok (), s, journal⟩
  | (journal, some trouble) => ⟨.error trouble, s, journal⟩

/-- A result that is made while a caught fault is handled: what is raised then was raised during
that. -/
def handling (fault : Fault) : Except Fault α → Session σ α
  | .ok a => give a
  | .error other => fail (.during fault other)

/-- A result that is there already. -/
def ofExcept : Except Fault α → Session σ α
  | .ok a => give a
  | .error f => fail f

/-- One step, and another one where the first ends in a fault, from where that left the state. -/
def recover (step : Session σ α) (handle : Fault → Session σ α) : Session σ α := fun s =>
  let o := step s
  match o.result with
  | .ok a => ⟨.ok a, o.state, o.journal⟩
  | .error f =>
    let p := handle f o.state
    ⟨p.result, p.state, o.journal ++ p.journal⟩

instance : MonadExceptOf Fault (Session σ) where
  throw := fail
  tryCatch := recover

instance : MonadLift (Except Fault) (Session σ) where
  monadLift := ofExcept

/-- The result of a step as a value: this step itself does not fail. -/
def attempt (step : Session σ α) : Session σ (Except Fault α) := fun s =>
  let o := step s
  ⟨.ok o.result, o.state, o.journal⟩

/-- A step on a part of the state. -/
def zoom (part : σ → τ) (put : τ → σ → σ) (step : Session τ α) : Session σ α := fun s =>
  let o := step (part s)
  ⟨o.result, put o.state s, o.journal⟩

@[simp] theorem run_pure (a : α) (s : σ) : run (pure a : Session σ α) s = ⟨.ok a, s, []⟩ := rfl

@[simp] theorem run_fail (f : Fault) (s : σ) :
    run (fail f : Session σ α) s = ⟨.error f, s, []⟩ := rfl

@[simp] theorem run_ofExcept (result : Except Fault α) (s : σ) :
    run (ofExcept result) s = ⟨result, s, []⟩ := by
  cases result <;> rfl

@[simp] theorem run_get (s : σ) : run get s = ⟨.ok s, s, []⟩ := rfl

@[simp] theorem run_set (s t : σ) : run (set t) s = ⟨.ok (), t, []⟩ := rfl

@[simp] theorem run_modify (change : σ → σ) (s : σ) :
    run (modify change) s = ⟨.ok (), change s, []⟩ := rfl

@[simp] theorem run_write (records : Journal) (s : σ) :
    run (write records) s = ⟨.ok (), s, records⟩ := rfl

@[simp] theorem run_note (level : Level) (channel : Channel) (message : String) (s : σ) :
    run (note level channel message) s = ⟨.ok (), s, [⟨level, channel, some message, none⟩]⟩ := rfl

@[simp] theorem run_handling (fault : Fault) (result : Except Fault α) (s : σ) :
    run (handling fault result) s = ⟨result.mapError (.during fault), s, []⟩ := by
  cases result <;> rfl

@[simp] theorem run_attempt (step : Session σ α) (s : σ) :
    run (attempt step) s = ⟨.ok (run step s).result, (run step s).state, (run step s).journal⟩ :=
  rfl

@[simp] theorem run_zoom (part : σ → τ) (put : τ → σ → σ) (step : Session τ α) (s : σ) :
    run (zoom part put step) s =
      ⟨(run step (part s)).result, put (run step (part s)).state s, (run step (part s)).journal⟩ :=
  rfl

theorem run_bind_of_ok {first : Session σ α} {next : α → Session σ β} {s : σ} {a : α}
    (h : (run first s).result = .ok a) :
    run (first >>= next) s =
      ⟨(run (next a) (run first s).state).result, (run (next a) (run first s).state).state,
        (run first s).journal ++ (run (next a) (run first s).state).journal⟩ := by
  simp only [run] at h
  simp only [run, bind, andThen, h]

theorem run_bind_of_error {first : Session σ α} {next : α → Session σ β} {s : σ} {f : Fault}
    (h : (run first s).result = .error f) :
    run (first >>= next) s = ⟨.error f, (run first s).state, (run first s).journal⟩ := by
  simp only [run] at h
  simp only [run, bind, andThen, h]

theorem run_bind (first : Session σ α) (next : α → Session σ β) (s : σ) :
    run (first >>= next) s =
      match (run first s).result with
      | .error f => ⟨.error f, (run first s).state, (run first s).journal⟩
      | .ok a =>
        ⟨(run (next a) (run first s).state).result, (run (next a) (run first s).state).state,
          (run first s).journal ++ (run (next a) (run first s).state).journal⟩ := by
  cases h : (run first s).result with
  | error f => exact run_bind_of_error h
  | ok a => exact run_bind_of_ok h

theorem run_bind_eq_ok_iff {first : Session σ α} {next : α → Session σ β} {s : σ} {b : β} :
    (run (first >>= next) s).result = .ok b ↔
      ∃ a, (run first s).result = .ok a ∧ (run (next a) (run first s).state).result = .ok b := by
  cases h : (run first s).result with
  | error f => simp [run_bind_of_error h]
  | ok a => simp [run_bind_of_ok h]

end Session

end Vetting
