import Mathlib
import Vetting.Proofs.Session
import Vetting.Validator.Host

/-!
# Vetting.Proofs.Validator.Batch

What comes of running all validators. Each has its turn: one that is eligible is called once, one
that is not is never called, and how it ends becomes a record. Nothing that a validator returns or
raises stops the others, but for what cannot be told: a fault that cannot be shown, and a verdict
that does not answer whether it passed. Making a record of those fails, and the whole run with it.

* `Host.run_runValidator`: one turn in closed form.
* `Host.runEach_result`: a run is its turns, one after another.
* `Host.calls_afterAll`: the functions that are called in them.
* `Host.runAll_iff`: the run of all keeps its promises exactly when everything can be told and the
  validators are found without calling them.
-/

namespace Vetting

theorem exists_forall₂_iff {α β : Type} {R : α → β → Prop} {as : List α} :
    (∃ bs, List.Forall₂ R as bs) ↔ ∀ a ∈ as, ∃ b, R a b := by
  induction as with
  | nil => simp
  | cons a rest ih =>
    simp only [List.mem_cons, forall_eq_or_imp, ← ih, List.forall₂_cons_left_iff]
    constructor
    · rintro ⟨_, b, bs, hb, hbs, rfl⟩
      exact ⟨⟨b, hb⟩, bs, hbs⟩
    · rintro ⟨⟨b, hb⟩, bs, hbs⟩
      exact ⟨_, b, bs, hb, hbs, rfl⟩

/-- A fault that can be shown: what it says, and its trace. -/
def Fault.IsShown (fault : Fault) : Prop :=
  (∃ message, fault.said = .ok message) ∧ ∃ trace, fault.traced = .ok trace

/-! ## The functions that are called -/

/-- The function that is called for a validator, if it is one. -/
def Descriptor.number? (d : Descriptor) : Option Nat :=
  match d.callee with
  | .function number => some number
  | _ => none

/-- The functions of the eligible of some validators, in order. -/
def bodies (ds : List Descriptor) : List Nat :=
  (ds.filter (·.eligible)).filterMap (·.number?)

/-- Where no function is that of two validators, those of the eligible ones are there once, and the
others are not there. -/
theorem count_bodies {ds : List Descriptor} (h : (ds.filterMap (·.number?)).Nodup)
    {d : Descriptor} (hd : d ∈ ds) {number : Nat} (hnumber : d.number? = some number) :
    (bodies ds).count number = if d.eligible then 1 else 0 := by
  induction ds with
  | nil => cases hd
  | cons first rest ih =>
    have hcons : bodies (first :: rest) =
        (if first.eligible then first.number?.toList else []) ++ bodies rest := by
      cases heligible : first.eligible <;> cases hfirst : first.number? <;>
        simp [bodies, heligible, hfirst]
    have hsplit : (first.number?.toList ++ rest.filterMap (·.number?)).Nodup := by
      cases hfirst : first.number? <;> simpa [List.filterMap_cons, hfirst] using h
    obtain ⟨-, hrest, hapart⟩ := List.nodup_append.1 hsplit
    rw [hcons, List.count_append]
    rcases List.mem_cons.1 hd with rfl | hd
    · have habsent : number ∉ bodies rest := by
        intro hmem
        obtain ⟨d', hd', hnumber'⟩ := List.mem_filterMap.1 hmem
        exact hapart number (by simp [hnumber]) number
          (List.mem_filterMap.2 ⟨d', List.mem_of_mem_filter hd', hnumber'⟩) rfl
      rw [List.count_eq_zero.2 habsent, hnumber]
      cases d.eligible <;> simp
    · have habsent : number ∉ first.number?.toList := fun hmem =>
        hapart number hmem number (List.mem_filterMap.2 ⟨d, hd, hnumber⟩) rfl
      rw [ih hrest hd]
      cases first.eligible <;> simp [List.count_eq_zero.2 habsent]

namespace World

variable {world : World}

theorem calls_nextReply (number : Nat) :
    ((nextReply number).run world).state.calls = world.calls := by
  rw [nextReply, Session.run_bind_of_ok rfl, Session.run_get]
  split <;> rfl

theorem calls_runBody (body : Body) : ((runBody body).run world).state.calls = world.calls := by
  cases body with
  | unusedImports =>
    rw [runBody, Session.run_bind]
    split <;> rfl
  | script number =>
    have hreply := @calls_nextReply world number
    rw [runBody, Session.run_bind]
    split
    · exact hreply
    · rename_i reply _
      cases reply <;> exact hreply

/-- A call adds one function to those that were called, whatever the function does. -/
theorem calls_callFunction (number : Nat) :
    ((callFunction number).run world).state.calls = world.calls ++ [number] := by
  rw [callFunction, Session.run_bind_of_ok rfl, Session.run_bind_of_ok rfl]
  dsimp only [Session.run_get]
  split
  · exact calls_runBody _
  · rfl

theorem calls_call (d : Descriptor) :
    ((call d.callee).run world).state.calls = world.calls ++ d.number?.toList := by
  cases hcallee : d.callee with
  | function number =>
    rw [call, calls_callFunction, Descriptor.number?, hcallee]
    rfl
  | _ =>
    rw [Descriptor.number?, hcallee]
    exact (List.append_nil _).symm

end World

/-! ## Turns -/

/-- A validator whose turn it is, and the host at that time. -/
structure Turn where
  descriptor : Descriptor
  host : Host

namespace Turn

/-- How the validator ends when it is called. -/
def ending (t : Turn) : Except Fault Returned :=
  ((World.call t.descriptor.callee).run t.host.toWorld).result

/-- The host after the turn: an eligible validator was called once, another one not at all. -/
def next (t : Turn) : Host :=
  if t.descriptor.eligible then
    { t.host with toWorld := ((World.call t.descriptor.callee).run t.host.toWorld).state }
  else t.host

/-- A validator is called and raises. -/
def Raises (t : Turn) (fault : Fault) : Prop :=
  t.descriptor.eligible = true ∧ t.ending = .error fault

/-- A validator that is to return a verdict is called and returns one. -/
def Gives (t : Turn) (verdict : Verdict) : Prop :=
  t.descriptor.eligible = true ∧ t.descriptor.returnKind = .structured ∧
    t.ending = .ok (.verdict verdict)

/-- How a turn ends can be told: a fault can be shown, and a verdict answers whether it passed. -/
structure IsTellable (t : Turn) : Prop where
  shown : ∀ fault, t.Raises fault → fault.IsShown
  answers : ∀ verdict, t.Gives verdict → ∃ passes, verdict.passes = .ok passes

/-- What the record of a turn says. -/
structure Tells (t : Turn) (record : RunRecord) : Prop where
  name : record.name = t.descriptor.qualifiedName
  invalid : record.status = .invalidSignature ↔ t.descriptor.eligible = false
  raised : record.status = .raised ↔
    (∃ fault, t.Raises fault) ∨
      t.descriptor.eligible = true ∧ t.descriptor.returnKind = .structured ∧
        ∃ r, t.ending = .ok r ∧ ∀ verdict, r ≠ .verdict verdict
  passed : record.status = .passed ↔
    t.descriptor.eligible = true ∧ t.descriptor.returnKind = .boolean ∧
        t.ending = .ok (.value (.bool true)) ∨
      ∃ verdict, t.Gives verdict ∧ verdict.passes = .ok true
  failed : record.status = .failed ↔
    t.descriptor.eligible = true ∧ t.descriptor.returnKind = .boolean ∧
        (∃ r, t.ending = .ok r ∧ r ≠ .value (.bool true)) ∨
      ∃ verdict, t.Gives verdict ∧ verdict.passes = .ok false
  trace : record.trace?.isSome = true ↔ record.status = .raised
  agrees : record.verdict.passes = .ok record.passed

/-- A record is the one that the validator has where it is run alone, in any host in which it ends
in the same way. -/
def IsAlone (t : Turn) (record : RunRecord) : Prop :=
  ∀ host : Host,
    (t.descriptor.eligible = true → ending ⟨t.descriptor, host⟩ = t.ending) →
      ((Host.runValidator t.descriptor).run host).result = .ok record

theorem calls_next (t : Turn) : t.next.calls = t.host.calls ++ bodies [t.descriptor] := by
  cases heligible : t.descriptor.eligible with
  | false => simp [next, bodies, heligible]
  | true =>
    have hcalls := @World.calls_call t.host.toWorld t.descriptor
    simp only [next, heligible, if_true, hcalls]
    cases hnumber : t.descriptor.number? <;> simp [bodies, heligible, hnumber]

end Turn

namespace Host

/-! ## One turn -/

/-- The record of a validator that raised, if one can be made. -/
def raisedRecord (d : Descriptor) (fault : Fault) : Except Fault RunRecord :=
  if isContained fault then
    match fault.headline, fault.traced with
    | .ok message, .ok trace => .ok ⟨d.qualifiedName, .fail message, .raised, some trace⟩
    | .error other, _ | .ok _, .error other => .error (.during fault other)
  else .error fault

/-- The record of a validator that was not called. -/
def uncalledRecord (d : Descriptor) : RunRecord where
  name := d.qualifiedName
  verdict := .fail (Fault.badSignature (some d.qualifiedName)).message
  status := .invalidSignature

/-- The record of a validator whose body ends in a way, if one can be made. -/
def recordFor (d : Descriptor) (ending : Except Fault Returned) : Except Fault RunRecord :=
  if d.eligible then
    match ending.bind (verdictOf d) with
    | .ok verdict => recordOf d true verdict
    | .error fault => raisedRecord d fault
  else .ok (uncalledRecord d)

theorem run_tryRun (d : Descriptor) (host : Host) :
    ((tryRun (some d)).run host).result =
        (if d.eligible then ((Turn.ending ⟨d, host⟩).bind (verdictOf d)).map ((true, ·))
        else .ok (false, (uncalledRecord d).verdict)) ∧
      ((tryRun (some d)).run host).state = Turn.next ⟨d, host⟩ := by
  cases heligible : d.eligible with
  | false => simp [tryRun, heligible, Turn.next, uncalledRecord]
  | true =>
    cases hcall : ((World.call d.callee).run host.toWorld).result with
    | error fault =>
      simp [tryRun, heligible, Turn.next, Turn.ending, Session.run_bind, onWorld, hcall,
        Except.bind, Except.map]
    | ok r =>
      cases hverdict : verdictOf d r <;>
        simp [tryRun, heligible, Turn.next, Turn.ending, Session.run_bind, onWorld, hcall,
          hverdict, Except.bind, Except.map]

theorem run_faultRecord {fault : Fault} (d : Descriptor) (hcontained : isContained fault = true)
    (host : Host) :
    ((faultRecord d fault).run host).result = raisedRecord d fault ∧
      ((faultRecord d fault).run host).state = host := by
  cases hheadline : fault.headline with
  | error other =>
    simp [faultRecord, raisedRecord, hcontained, hheadline, Fault.invocation, Session.run_bind,
      Except.map, Except.mapError]
  | ok message =>
    cases htraced : fault.traced <;>
      simp [faultRecord, raisedRecord, hcontained, hheadline, htraced, Fault.invocation,
        Fault.message, Session.run_bind, Except.map, Except.mapError]

/-- One turn: the record depends on how the body ends and on nothing else, and nothing is done to
the host but calling it. -/
theorem run_runValidator (d : Descriptor) (host : Host) :
    ((runValidator d).run host).result = recordFor d (Turn.ending ⟨d, host⟩) ∧
      ((runValidator d).run host).state = Turn.next ⟨d, host⟩ := by
  obtain ⟨hresult, hstate⟩ := run_tryRun d host
  cases heligible : d.eligible with
  | false =>
    simp [runValidator, recordFor, heligible, hresult, hstate, Session.run_bind, uncalledRecord,
      recordOf, Verdict.fail, Verdict.messageOf, Held.text]
  | true =>
    cases hverdict : (Turn.ending ⟨d, host⟩).bind (verdictOf d) with
    | ok verdict =>
      simp [runValidator, recordFor, heligible, hresult, hstate, Session.run_bind, hverdict,
        Except.map]
    | error fault =>
      cases hcontained : isContained fault with
      | false =>
        simp [runValidator, recordFor, heligible, hresult, hstate, Session.run_bind, hverdict,
          Except.map, raisedRecord, hcontained]
      | true =>
        obtain ⟨hrecord, hstays⟩ := run_faultRecord d hcontained (Turn.next ⟨d, host⟩)
        simp [runValidator, recordFor, heligible, hresult, hstate, Session.run_bind, hverdict,
          Except.map, hcontained, hrecord, hstays]

theorem raisedRecord_eq_ok {d : Descriptor} {fault : Fault} {record : RunRecord}
    (h : raisedRecord d fault = .ok record) :
    ∃ message trace, record = ⟨d.qualifiedName, .fail (some message), .raised, some trace⟩ := by
  simp only [raisedRecord] at h
  split at h
  · split at h
    · exact ⟨_, _, (Except.ok.inj h).symm⟩
    · cases h
    · cases h
  · cases h

theorem recordOf_eq_ok {d : Descriptor} {verdict : Verdict} {record : RunRecord}
    (h : recordOf d true verdict = .ok record) : ∃ passes, verdict.passes = .ok passes ∧
      record = ⟨d.qualifiedName, verdict, if passes then .passed else .failed, none⟩ := by
  cases hpasses : verdict.passes with
  | error fault => simp [recordOf, hpasses, Except.map] at h
  | ok passes => exact ⟨passes, rfl, by simpa [recordOf, hpasses, Except.map] using h.symm⟩

/-- The verdict on a truth value: nothing but truth passes. -/
theorem verdictOf_boolean {d : Descriptor} (hkind : d.returnKind = .boolean) (r : Returned) :
    ∃ passes, verdictOf d r = .ok ⟨.value (.bool passes), .value .null⟩ ∧
      (passes = true ↔ r = .value (.bool true)) := by
  by_cases htrue : r = .value (.bool true)
  · subst htrue
    exact ⟨true, by simp [verdictOf, hkind, Verdict.pass, Verdict.messageOf], by simp⟩
  · refine ⟨false, ?_, by simpa using htrue⟩
    simp [verdictOf, hkind, Verdict.fail, Verdict.messageOf]

end Host

/-- What the record of a turn can be. -/
inductive Turn.Records (t : Turn) : RunRecord → Prop where
  /-- The validator was not called. -/
  | uncalled : t.descriptor.eligible = false → t.Records (Host.uncalledRecord t.descriptor)
  /-- It raised, or returned what is no verdict. -/
  | raised {message trace : String} : t.descriptor.eligible = true →
      ((∃ fault, t.ending = .error fault) ∨ t.descriptor.returnKind = .structured ∧
        ∃ r, t.ending = .ok r ∧ ∀ verdict, r ≠ .verdict verdict) →
      t.Records ⟨t.descriptor.qualifiedName, .fail (some message), .raised, some trace⟩
  /-- It returned a truth value, or something in its place. -/
  | boolean {r : Returned} {passes : Bool} : t.descriptor.eligible = true →
      t.descriptor.returnKind = .boolean → t.ending = .ok r →
      (passes = true ↔ r = .value (.bool true)) →
      t.Records ⟨t.descriptor.qualifiedName, ⟨.value (.bool passes), .value .null⟩,
        if passes then .passed else .failed, none⟩
  /-- It returned a verdict. -/
  | structured {verdict : Verdict} {passes : Bool} : t.Gives verdict →
      verdict.passes = .ok passes →
      t.Records ⟨t.descriptor.qualifiedName, verdict, if passes then .passed else .failed, none⟩

/-- A record tells of its turn, however the turn ended. -/
theorem Turn.Records.tells {t : Turn} {record : RunRecord} (h : t.Records record) :
    t.Tells record := by
  -- one goal for each promise of a record
  cases h with
  | uncalled heligible =>
    constructor <;> simp [Host.uncalledRecord, Raises, Gives, heligible, RunRecord.passed]
  | raised heligible hending =>
    rcases hending with ⟨fault, hending⟩ | ⟨hkind, r, hending, hother⟩
    · constructor <;> simp [Raises, Gives, heligible, hending, RunRecord.passed]
    · constructor <;> simp [Raises, Gives, heligible, hending, hkind, hother, RunRecord.passed]
  | @boolean r passes heligible hkind hending htrue =>
    constructor <;> cases passes <;> simp_all [Raises, Gives, RunRecord.passed, Verdict.passes]
  | @structured verdict passes hgives hpasses =>
    obtain ⟨heligible, hkind, hending⟩ := hgives
    constructor <;> cases passes <;> simp_all [Raises, Gives, RunRecord.passed]

namespace Host

theorem records_of_raisedRecord {t : Turn} {fault : Fault} {record : RunRecord}
    (heligible : t.descriptor.eligible = true)
    (hending : (∃ fault, t.ending = .error fault) ∨ t.descriptor.returnKind = .structured ∧
      ∃ r, t.ending = .ok r ∧ ∀ verdict, r ≠ .verdict verdict)
    (h : raisedRecord t.descriptor fault = .ok record) : t.Records record := by
  obtain ⟨message, trace, rfl⟩ := raisedRecord_eq_ok h
  exact .raised heligible hending

theorem records_of_recordFor {t : Turn} {record : RunRecord}
    (h : recordFor t.descriptor t.ending = .ok record) : t.Records record := by
  cases heligible : t.descriptor.eligible with
  | false =>
    rw [recordFor, heligible] at h
    obtain rfl := Except.ok.inj h
    exact .uncalled heligible
  | true =>
    rw [recordFor, if_pos heligible] at h
    cases hending : t.ending with
    | error fault =>
      rw [hending] at h
      exact records_of_raisedRecord heligible (.inl ⟨fault, hending⟩) h
    | ok r =>
      rw [hending] at h
      cases hkind : t.descriptor.returnKind with
      | invalid => simp [Descriptor.eligible, hkind] at heligible
      | boolean =>
        obtain ⟨passes, hverdict, htrue⟩ := verdictOf_boolean hkind r
        simp only [Except.bind, hverdict] at h
        obtain ⟨passes', hpasses, rfl⟩ := recordOf_eq_ok h
        obtain rfl := Except.ok.inj hpasses
        exact .boolean heligible hkind hending htrue
      | structured =>
        cases r with
        | verdict verdict =>
          simp only [Except.bind, verdictOf, hkind] at h
          obtain ⟨passes, hpasses, rfl⟩ := recordOf_eq_ok h
          exact .structured ⟨heligible, hkind, hending⟩ hpasses
        | value v =>
          simp only [Except.bind, verdictOf, hkind] at h
          exact records_of_raisedRecord heligible (.inr ⟨hkind, _, hending, nofun⟩) h
        | other typeName =>
          simp only [Except.bind, verdictOf, hkind] at h
          exact records_of_raisedRecord heligible (.inr ⟨hkind, _, hending, nofun⟩) h

theorem exists_raisedRecord_iff {d : Descriptor} {fault : Fault}
    (hcontained : isContained fault = true) :
    (∃ record, raisedRecord d fault = .ok record) ↔ fault.IsShown := by
  simp only [raisedRecord, hcontained, if_true, Fault.IsShown, Fault.headline]
  cases fault.said <;> cases fault.traced <;> simp [Except.map]

/-- What is raised for a returned thing that is no verdict can be shown. -/
theorem verdictOf_eq_error {d : Descriptor} {r : Returned} {fault : Fault}
    (h : verdictOf d r = .error fault) : isContained fault = true ∧ fault.IsShown := by
  simp only [verdictOf] at h
  split at h <;> cases h
  exact ⟨rfl, ⟨_, rfl⟩, _, rfl⟩

theorem exists_recordOf_iff {d : Descriptor} {verdict : Verdict} :
    (∃ record, recordOf d true verdict = .ok record) ↔ ∃ passes, verdict.passes = .ok passes := by
  cases hpasses : verdict.passes <;> simp [recordOf, hpasses, Except.map]

/-- A turn has a record exactly when how it ends can be told. -/
theorem exists_recordFor_iff {t : Turn}
    (hcontained : ∀ fault, t.Raises fault → isContained fault = true) :
    (∃ record, recordFor t.descriptor t.ending = .ok record) ↔ t.IsTellable := by
  have htellable : t.IsTellable ↔ (∀ fault, t.Raises fault → fault.IsShown) ∧
      ∀ verdict, t.Gives verdict → ∃ passes, verdict.passes = .ok passes :=
    ⟨fun h => ⟨h.shown, h.answers⟩, fun h => ⟨h.1, h.2⟩⟩
  rw [htellable]
  cases heligible : t.descriptor.eligible with
  | false => simp [recordFor, heligible, Turn.Raises, Turn.Gives]
  | true =>
    cases hending : t.ending with
    | error fault =>
      have hfault := hcontained fault ⟨heligible, hending⟩
      simpa [recordFor, heligible, Turn.Raises, Turn.Gives, hending, Except.bind]
        using exists_raisedRecord_iff hfault
    | ok r =>
      simp only [recordFor, heligible, if_true, Turn.Raises, Turn.Gives, hending, Except.bind,
        reduceCtorEq, and_false, false_implies, implies_true, true_and, Except.ok.injEq]
      cases hverdict : verdictOf t.descriptor r with
      | error fault =>
        obtain ⟨hfault, hshown⟩ := verdictOf_eq_error hverdict
        refine iff_of_true ((exists_raisedRecord_iff hfault).2 hshown) ?_
        rintro verdict ⟨hkind, rfl⟩
        simp [verdictOf, hkind] at hverdict
      | ok verdict =>
        rw [exists_recordOf_iff]
        cases hkind : t.descriptor.returnKind with
        | invalid => simp [Descriptor.eligible, hkind] at heligible
        | boolean =>
          obtain ⟨passes, hverdict', -⟩ := verdictOf_boolean hkind r
          obtain rfl := Except.ok.inj (hverdict.symm.trans hverdict')
          simp [Verdict.passes]
        | structured =>
          obtain rfl : r = .verdict verdict := by
            cases r <;> simp_all [verdictOf]
          simp

theorem isAlone_of_recordFor {t : Turn} {record : RunRecord}
    (h : recordFor t.descriptor t.ending = .ok record) : t.IsAlone record := by
  intro host hsame
  rw [(run_runValidator t.descriptor host).1, ← h]
  cases heligible : t.descriptor.eligible with
  | true => rw [hsame heligible]
  | false => simp only [recordFor, heligible, Bool.false_eq_true, if_false]

/-! ## All turns -/

/-- The turns of some validators, one after another. -/
def turns : Host → List Descriptor → List Turn
  | _, [] => []
  | host, d :: rest => ⟨d, host⟩ :: turns (Turn.next ⟨d, host⟩) rest

/-- The host after the turns of some validators. -/
def afterAll (host : Host) (ds : List Descriptor) : Host :=
  ds.foldl (fun host d => Turn.next ⟨d, host⟩) host

/-- The functions that are called in some turns are those of the eligible validators, in order. -/
theorem calls_afterAll (host : Host) (ds : List Descriptor) :
    (afterAll host ds).calls = host.calls ++ bodies ds := by
  induction ds generalizing host with
  | nil => simp [afterAll, bodies]
  | cons d rest ih =>
    have hcons : bodies (d :: rest) = bodies [d] ++ bodies rest := by
      cases heligible : d.eligible <;> cases hnumber : d.number? <;>
        simp [bodies, heligible, hnumber]
    change (afterAll (Turn.next ⟨d, host⟩) rest).calls = _
    rw [ih, Turn.calls_next, hcons, List.append_assoc]

/-- A run gives records exactly when each turn does, and they are those of the turns, in order. -/
theorem runEach_result {host : Host} {ds : List Descriptor} {records : List RunRecord} :
    ((runEach ds).run host).result = .ok records ↔
      List.Forall₂ (fun t record => recordFor t.descriptor t.ending = .ok record) (turns host ds)
        records := by
  induction ds generalizing host records with
  | nil => simp [runEach, turns, eq_comm]
  | cons d rest ih =>
    obtain ⟨hresult, hstate⟩ := run_runValidator d host
    -- the turns behind this one start from the host that it leaves
    rw [turns, List.forall₂_cons_left_iff, runEach, Session.run_bind_eq_ok_iff, hresult, hstate]
    simp only [Session.run_bind_eq_ok_iff, Session.run_pure, Except.ok.injEq, ih]
    constructor
    · rintro ⟨record, hrecord, more, hmore, rfl⟩
      exact ⟨record, more, hrecord, hmore, rfl⟩
    · rintro ⟨record, more, hrecord, hmore, rfl⟩
      exact ⟨record, hrecord, more, hmore, rfl⟩

theorem runEach_state {host : Host} {ds : List Descriptor} {records : List RunRecord}
    (h : ((runEach ds).run host).result = .ok records) :
    ((runEach ds).run host).state = afterAll host ds := by
  induction ds generalizing host records with
  | nil => rfl
  | cons d rest ih =>
    obtain ⟨hresult, hstate⟩ := run_runValidator d host
    rw [runEach, Session.run_bind_eq_ok_iff] at h
    obtain ⟨record, hrecord, h⟩ := h
    rw [Session.run_bind_eq_ok_iff] at h
    obtain ⟨more, hmore, -⟩ := h
    rw [runEach, Session.run_bind_of_ok hrecord, Session.run_bind_of_ok hmore]
    rw [hstate] at hmore ⊢
    exact ih hmore

theorem exists_runEach_iff {host : Host} {ds : List Descriptor} :
    (∃ records, ((runEach ds).run host).result = .ok records) ↔
      ∀ t ∈ turns host ds, ∃ record, recordFor t.descriptor t.ending = .ok record := by
  simp only [runEach_result]
  exact exists_forall₂_iff

end Host

namespace RunReport

theorem sum_byStatus (report : RunReport) :
    (RunStatus.all.map fun status => (report.byStatus status).length).sum = report.total := by
  obtain ⟨records⟩ := report
  simp only [byStatus, total, RunStatus.all]
  induction records with
  | nil => rfl
  | cons record rest ih =>
    cases hstatus : record.status <;> simp [hstatus] at ih ⊢ <;> omega

theorem passed_add_failed (report : RunReport) : report.passed + report.failed = report.total := by
  have hle : report.passed ≤ report.total := List.countP_le_length
  simp only [failed]
  omega

end RunReport

namespace Host

variable {host : Host} {ds : List Descriptor} {records : List RunRecord} {report : RunReport}

theorem map_name_of_tells (h : List.Forall₂ Turn.Tells (turns host ds) records) :
    records.map (·.name) = ds.map (·.qualifiedName) := by
  induction ds generalizing host records with
  | nil =>
    cases h
    rfl
  | cons d rest ih =>
    obtain ⟨record, more, hrecord, hmore, rfl⟩ := List.forall₂_cons_left_iff.1 h
    rw [List.map_cons, List.map_cons, hrecord.name, ih hmore]

/-- The promises of a run of all, for the validators that are found and the report. -/
structure IsReported (host : Host) (ds : List Descriptor) (report : RunReport) : Prop where
  found : (validators.run host).result = .ok ds
  reported : (runAll.run host).result = .ok report
  /-- There is one record for each validator, in the order in which they were found. -/
  names : report.records.map (·.name) = ds.map (·.qualifiedName)
  /-- Each record tells of its turn, and is the one that the validator has alone. -/
  records : List.Forall₂ (fun t record => t.Tells record ∧ t.IsAlone record)
    (turns (validators.run host).state ds) report.records
  /-- Each function that a validator stands for is called once for every eligible validator that
  stands for it, so once or not at all where that is the only one (`count_bodies`): it is not called
  while the validators are looked for. -/
  called : ∀ d ∈ ds, ∀ number, d.number? = some number →
    (runAll.run host).state.calls.count number =
      host.calls.count number + (bodies ds).count number
  /-- Nothing is done to the host but looking for the validators and calling them. -/
  left : (runAll.run host).state = afterAll (validators.run host).state ds
  statuses : (RunStatus.all.map fun status => (report.byStatus status).length).sum = report.total
  outcomes : report.passed + report.failed = report.total

/-- The validators can be found without calling them, and how each of them ends can be told. -/
structure IsReportable (host : Host) (ds : List Descriptor) : Prop where
  found : (validators.run host).result = .ok ds
  uncalled : ∀ d ∈ ds, ∀ number, d.number? = some number →
    (validators.run host).state.calls.count number = host.calls.count number
  tellable : ∀ t ∈ turns (validators.run host).state ds, t.IsTellable

theorem run_runAll_of_ok (hds : (validators.run host).result = .ok ds)
    (hrecords : ((runEach ds).run (validators.run host).state).result = .ok records) :
    (runAll.run host).result = .ok ⟨records⟩ ∧
      (runAll.run host).state = afterAll (validators.run host).state ds := by
  rw [runAll, Session.run_bind_of_ok hds, Session.run_bind_of_ok hrecords, runEach_state hrecords]
  exact ⟨rfl, rfl⟩

theorem exists_runEach_of_runAll (hds : (validators.run host).result = .ok ds)
    (h : (runAll.run host).result = .ok report) :
    ∃ records, ((runEach ds).run (validators.run host).state).result = .ok records := by
  rw [runAll, Session.run_bind_of_ok hds] at h
  obtain ⟨records, hrecords, -⟩ := Session.run_bind_eq_ok_iff.1 h
  exact ⟨records, hrecords⟩

/-- What looking for the validators calls stands between what was called before and the bodies. -/
theorem count_calls_afterAll (number : Nat) :
    (afterAll (validators.run host).state ds).calls.count number =
      (validators.run host).state.calls.count number + (bodies ds).count number := by
  rw [calls_afterAll, List.count_append]

/-- Running all validators keeps its promises exactly when they are found without calling them, all
that they raise can be shown, and each verdict that they return answers whether it passed. -/
theorem runAll_iff (host : Host)
    (hcontained : ∀ ds, (validators.run host).result = .ok ds →
      ∀ t ∈ turns (validators.run host).state ds, ∀ fault, t.Raises fault →
        isContained fault = true) :
    (∃ ds report, IsReported host ds report) ↔ ∃ ds, IsReportable host ds := by
  have htellable : ∀ {ds}, (validators.run host).result = .ok ds →
      ((∃ records, ((runEach ds).run (validators.run host).state).result = .ok records) ↔
        ∀ t ∈ turns (validators.run host).state ds, t.IsTellable) := by
    intro ds hds
    rw [exists_runEach_iff]
    exact forall₂_congr fun t ht => exists_recordFor_iff (hcontained ds hds t ht)
  constructor
  · rintro ⟨ds, report, h⟩
    refine ⟨ds, h.found, ?_, (htellable h.found).1 (exists_runEach_of_runAll h.found h.reported)⟩
    intro d hd number hnumber
    have hcalled := h.called d hd number hnumber
    rw [h.left, count_calls_afterAll] at hcalled
    omega
  · rintro ⟨ds, h⟩
    obtain ⟨records, hrecords⟩ := (htellable h.found).2 h.tellable
    obtain ⟨hreport, hleft⟩ := run_runAll_of_ok h.found hrecords
    have hturns := runEach_result.1 hrecords
    refine ⟨ds, ⟨records⟩, {
      found := h.found
      reported := hreport
      names := map_name_of_tells (hturns.imp fun t record ht => (records_of_recordFor ht).tells)
      records := hturns.imp fun t record ht =>
        ⟨(records_of_recordFor ht).tells, isAlone_of_recordFor ht⟩
      called := ?_
      left := hleft
      statuses := RunReport.sum_byStatus _
      outcomes := RunReport.passed_add_failed _ }⟩
    intro d hd number hnumber
    rw [hleft, count_calls_afterAll, h.uncalled d hd number hnumber]

/-- A host of the validators `m.a` and `m.b`, which are to return truth values and have one reply
each. -/
def ofReplies (a b : Reply) : Host where
  program :=
    { functions := ["a", "b"].zipIdx.toArray.map fun (qualname, number) =>
        { home := "m", qualname, returnHint := some (.type "bool"), body := .script number,
          moduleNumber := 0 }
      scripts := #[[a], [b]] }
  workspace := { tree := ⟨[], []⟩ }
  registry := { table := .listed [.function 0, .function 1] }

/-- What is told of the two validators. -/
def toldOfReplies : List Descriptor :=
  [⟨"m.a", "m", .boolean, true, 0, .function 0⟩, ⟨"m.b", "m", .boolean, true, 0, .function 1⟩]

theorem validators_ofReplies (a b : Reply) :
    (validators.run (ofReplies a b)).result = .ok toldOfReplies := by
  cbv

theorem calls_ofReplies (a b : Reply) : (validators.run (ofReplies a b)).state.calls = [] := by
  cbv

/-- How the two validators end: the first one raises and the second one returns. -/
theorem ending_ofReplies (fault : Fault) (r : Returned) :
    ∀ t ∈ turns (validators.run (ofReplies (.raises fault) (.returns r))).state toldOfReplies,
      t.descriptor.returnKind = .boolean ∧ (t.ending = .error fault ∨ t.ending = .ok r) := by
  simp only [toldOfReplies, turns, List.forall_mem_cons, List.not_mem_nil, false_implies,
    implies_true, and_true]
  refine ⟨⟨trivial, .inl ?_⟩, trivial, .inr ?_⟩ <;> cbv

theorem eq_of_raises_ofReplies {fault other : Fault} {r : Returned} {t : Turn}
    (ht : t ∈ turns (validators.run (ofReplies (.raises fault) (.returns r))).state toldOfReplies)
    (hraises : t.Raises other) : other = fault := by
  obtain ⟨-, hending | hending⟩ := ending_ofReplies fault r t ht
  · exact Except.error.inj (hraises.2.symm.trans hending)
  · cases hraises.2.symm.trans hending

theorem isContained_of_raises_ofReplies {fault : Fault} (hfault : isContained fault = true)
    (r : Returned) : ∀ ds,
      (validators.run (ofReplies (.raises fault) (.returns r))).result = .ok ds →
      ∀ t ∈ turns (validators.run (ofReplies (.raises fault) (.returns r))).state ds, ∀ other,
        t.Raises other → isContained other = true := by
  intro ds hds t ht other hraises
  obtain rfl := Except.ok.inj ((validators_ofReplies _ _).symm.trans hds)
  rwa [eq_of_raises_ofReplies ht hraises]

theorem runAll_raising :
    ∃ ds report, IsReported (ofReplies (.raises (.withText "ValueError" "c"))
      (.returns (.value (.bool true)))) ds report := by
  refine (runAll_iff _ (isContained_of_raises_ofReplies rfl _)).2 ⟨toldOfReplies, {
    found := validators_ofReplies _ _
    uncalled := fun _ _ _ _ => by rw [calls_ofReplies]; rfl
    tellable := ?_ }⟩
  intro t ht
  constructor
  · intro other hraises
    rw [eq_of_raises_ofReplies ht hraises]
    exact ⟨⟨_, rfl⟩, _, rfl⟩
  · rintro verdict ⟨-, hkind, -⟩
    cases hkind.symm.trans (ending_ofReplies _ _ t ht).1

/-- A validator that raises a fault of this library with a number for its message. -/
theorem runAll_speechless :
    ¬ ∀ host : Host,
      (∀ ds, (validators.run host).result = .ok ds →
        ∀ t ∈ turns (validators.run host).state ds, ∀ fault, t.Raises fault →
          isContained fault = true) →
      ∃ ds report, IsReported host ds report := by
  intro hall
  obtain ⟨ds, report, h⟩ := hall (ofReplies (.raises (.speechless .validation (.int 5)))
    (.returns (.value (.bool true)))) (isContained_of_raises_ofReplies rfl _)
  have hrun : (runAll.run (ofReplies (.raises (.speechless .validation (.int 5)))
      (.returns (.value (.bool true))))).result =
        .error (.during (.speechless .validation (.int 5))
          (.withText "TypeError" "__str__ returned non-string (type int)")) := by
    cbv
  cases hrun.symm.trans h.reported

end Host

end Vetting
