import Vetting.Session

/-!
# Vetting.Proofs.Session

Runs of steps, where it matters how they end and not what they write, and records of faults that
are too low to be looked at.

* `Session.ending`: the result of a step and the state that it leaves.
* `Record.ofFault_of_low`: a record below a warning never ends the step that writes it.
-/

namespace Vetting

namespace Session

variable {σ τ α β : Type}

theorem bind_pure_eq (step : Session σ α) : (step >>= pure) = step := by
  funext s
  change run _ s = run step s
  rcases h : run step s with ⟨f | a, t, journal⟩
  · rw [run_bind_of_error (by rw [h]), h]
  · rw [run_bind_of_ok (by rw [h]), h, run_pure, List.append_nil]

theorem bind_assoc_eq {γ : Type} (step : Session σ α) (next : α → Session σ β)
    (more : β → Session σ γ) :
    (step >>= next >>= more) = step >>= fun a => next a >>= more := by
  funext s
  change run _ s = run _ s
  cases hfirst : (run step s).result with
  | error f =>
    rw [run_bind_of_error hfirst, run_bind_of_error (by rw [run_bind_of_error hfirst]),
      run_bind_of_error hfirst]
  | ok a =>
    rw [run_bind_of_ok hfirst]
    cases hnext : (run (next a) (run step s).state).result with
    | error f =>
      rw [run_bind_of_error hnext, run_bind_of_error (by rw [run_bind_of_ok hfirst, hnext]),
        run_bind_of_ok hfirst]
    | ok b =>
      rw [run_bind_of_ok hnext, run_bind_of_ok (by rw [run_bind_of_ok hfirst, hnext]),
        run_bind_of_ok hfirst]
      simp

instance : LawfulMonad (Session σ) :=
  .mk' (Session σ) bind_pure_eq (fun _ _ => rfl) bind_assoc_eq

/-- How a step ends: its result and the state that it leaves, apart from what it writes. -/
def ending (step : Session σ α) (s : σ) : Except Fault α × σ :=
  ((run step s).result, (run step s).state)

theorem ending_write (records : Journal) (s : σ) : ending (write records) s = (.ok (), s) := rfl

theorem ending_ofExcept (result : Except Fault α) (s : σ) :
    ending (ofExcept result) s = (result, s) := by
  rw [ending, run_ofExcept]

theorem ending_bind_of_ok {first : Session σ α} {next : α → Session σ β} {s t : σ} {a : α}
    (h : ending first s = (.ok a, t)) : ending (first >>= next) s = ending (next a) t := by
  obtain ⟨hresult, rfl⟩ := Prod.mk.inj h
  rw [ending, run_bind_of_ok hresult]
  rfl

theorem ending_bind_of_error {first : Session σ α} {next : α → Session σ β} {s t : σ} {f : Fault}
    (h : ending first s = (.error f, t)) : ending (first >>= next) s = (.error f, t) := by
  obtain ⟨hresult, rfl⟩ := Prod.mk.inj h
  rw [ending, run_bind_of_error hresult]

@[simp] theorem run_map (f : α → β) (step : Session σ α) (s : σ) :
    run (f <$> step) s =
      ⟨(run step s).result.map f, (run step s).state, (run step s).journal⟩ := by
  rw [← bind_pure_comp]
  cases h : (run step s).result with
  | error fault => exact run_bind_of_error h
  | ok a => rw [run_bind_of_ok h, run_pure, List.append_nil]; rfl

@[simp] theorem run_liftM (result : Except Fault α) (s : σ) :
    run (liftM result : Session σ α) s = ⟨result, s, []⟩ :=
  run_ofExcept result s

/-- A step that ends well, and then a value from its own. -/
theorem run_bind_pure {step : Session σ α} {s : σ} {a : α} (f : α → β)
    (h : (run step s).result = .ok a) :
    run (step >>= fun a => pure (f a)) s =
      ⟨.ok (f a), (run step s).state, (run step s).journal⟩ := by
  rw [run_bind_of_ok h, run_pure, List.append_nil]

end Session

/-- Records below a warning. -/
def Journal.IsLow (journal : Journal) : Prop := journal.atLeast .warning = []

namespace Record

variable {level : Level} {channel : Channel} {template : String} {others : List (String × String)}

/-- A record of a fault whose text can be made. -/
theorem ofFault_of_said {fault : Fault} {text : String} (h : fault.said = .ok text) :
    ofFault level channel template others fault false =
      ([⟨level, channel, some (fill template (others.map (·.1) ++ [text])), none⟩], none) := by
  simp [ofFault, h, pure, Except.pure, bind, Except.bind]

/-- A record of a fault that is below a warning can always be written, and is of its level. -/
theorem ofFault_of_low (h : level.rank < Level.warning.rank) (fault : Fault) :
    ∃ record, ofFault level channel template others fault false = ([record], none) ∧
      record.level = level := by
  cases hsaid : fault.said with
  | ok text => exact ⟨_, ofFault_of_said hsaid, rfl⟩
  | error other =>
    have hlow : ¬ Level.warning.rank ≤ level.rank := Nat.not_le.2 h
    simp only [ofFault, hsaid, bind, Except.bind, unmade, hlow, decide_false, Bool.false_and,
      Bool.false_eq_true, if_false]
    split <;> exact ⟨_, rfl, rfl⟩

end Record

namespace Session

variable {σ : Type} {fault : Fault} {level : Level} {channel : Channel} {template : String}
  {others : List (String × String)}

/-- A caught fault is noted without a change of the state, and what is raised meanwhile passes. -/
theorem run_noteFault (inFull : Bool) (s : σ) :
    run (noteFault level channel template others fault inFull) s =
      ⟨match (Record.ofFault level channel template others fault inFull).2 with
        | none => .ok ()
        | some trouble => .error trouble,
        s, (Record.ofFault level channel template others fault inFull).1⟩ := by
  rcases h : Record.ofFault level channel template others fault inFull with
    ⟨journal, _ | trouble⟩ <;>
    simp only [run, noteFault, h]

theorem run_noteFault_of_said {text : String} (h : fault.said = .ok text) (s : σ) :
    run (noteFault level channel template others fault) s =
      ⟨.ok (), s,
        [⟨level, channel, some (Record.fill template (others.map (·.1) ++ [text])), none⟩]⟩ := by
  simp only [run, noteFault, Record.ofFault_of_said h]

theorem run_noteFault_of_low (h : level.rank < Level.warning.rank) (fault : Fault) (s : σ) :
    ∃ record, run (noteFault level channel template others fault) s = ⟨.ok (), s, [record]⟩ ∧
      record.level = level := by
  obtain ⟨record, hrecord, hlevel⟩ :=
    @Record.ofFault_of_low level channel template others h fault
  exact ⟨record, by simp only [run, noteFault, hrecord], hlevel⟩

end Session

end Vetting
