import Vetting.Proofs.Validator.Batch

/-!
# Vetting.Proofs.Validator.FixedEnding

Validators that end in the same way whichever of them were called before. The records of a run of
all are then those that each of them has where it is called first.

* `Host.HasFixedEndings.runEach_iff`: behind any of the validators the others have their records.
* `Host.runAll_result`: the report of a run of all.
* `Host.forall_records_iff`: what holds of all records, from the record of each.
-/

namespace Vetting

namespace Host

variable {host : Host} {ds : List Descriptor}

/-- Each of some validators ends in the same way, whichever of them were called before. -/
def HasFixedEndings (host : Host) (ds : List Descriptor) : Prop :=
  ∀ d ∈ ds, d.eligible = true → ∀ earlier : List Descriptor, (∀ e ∈ earlier, e ∈ ds) →
    Turn.ending ⟨d, afterAll host earlier⟩ = Turn.ending ⟨d, host⟩

/-- The record that a validator has where it is called first, if one can be made. -/
def recordAlone (host : Host) (d : Descriptor) : Except Fault RunRecord :=
  recordFor d (Turn.ending ⟨d, host⟩)

/-- Validators of which nothing is left but that they were called, and to which nothing matters
less, end in a fixed way. -/
theorem hasFixedEndings_of_calls
    (hnext : ∀ d ∈ ds, ∀ calls, ∃ more,
      Turn.next ⟨d, { host with calls }⟩ = { host with calls := more })
    (hending : ∀ d ∈ ds, ∀ calls, Turn.ending ⟨d, { host with calls }⟩ = Turn.ending ⟨d, host⟩) :
    HasFixedEndings host ds := by
  have hafter : ∀ earlier : List Descriptor, (∀ e ∈ earlier, e ∈ ds) → ∀ calls, ∃ more,
      afterAll { host with calls } earlier = { host with calls := more } := by
    intro earlier hearlier
    induction earlier with
    | nil => exact fun calls => ⟨calls, rfl⟩
    | cons d rest ih =>
      intro calls
      obtain ⟨more, hmore⟩ := hnext d (hearlier d List.mem_cons_self) calls
      rw [afterAll, List.foldl_cons, hmore]
      exact ih (fun e he => hearlier e (List.mem_cons_of_mem d he)) more
  intro d hd _ earlier hearlier
  obtain ⟨more, hmore⟩ := hafter earlier hearlier host.calls
  change afterAll host earlier = _ at hmore
  rw [hmore, hending d hd more]

theorem HasFixedEndings.recordFor_eq (hfixed : HasFixedEndings host ds) {d : Descriptor}
    (hd : d ∈ ds) {earlier : List Descriptor} (hearlier : ∀ e ∈ earlier, e ∈ ds) :
    recordFor d (Turn.ending ⟨d, afterAll host earlier⟩) = recordAlone host d := by
  rw [recordAlone]
  cases heligible : d.eligible with
  | true => rw [hfixed d hd heligible earlier hearlier]
  | false => simp only [recordFor, heligible, Bool.false_eq_true, if_false]

/-- The records of a run behind some of the validators are those that each of the others has
alone. -/
theorem HasFixedEndings.runEach_iff (hfixed : HasFixedEndings host ds) {records : List RunRecord}
    {rest : List Descriptor} (hrest : ∀ d ∈ rest, d ∈ ds) {earlier : List Descriptor}
    (hearlier : ∀ e ∈ earlier, e ∈ ds) :
    ((runEach rest).run (afterAll host earlier)).result = .ok records ↔
      List.Forall₂ (fun d record => recordAlone host d = .ok record) rest records := by
  rw [runEach_result]
  -- on those that are left; each step adds one to those that were called before
  induction rest generalizing earlier records with
  | nil => simp [turns]
  | cons d rest ih =>
    have hd := hrest d List.mem_cons_self
    have hnext : Turn.next ⟨d, afterAll host earlier⟩ = afterAll host (earlier ++ [d]) := by
      simp only [afterAll, List.foldl_append, List.foldl_cons, List.foldl_nil]
    have hearlier' : ∀ e ∈ earlier ++ [d], e ∈ ds := by
      intro e he
      rcases List.mem_append.1 he with he | he
      · exact hearlier e he
      · exact List.mem_singleton.1 he ▸ hd
    have hrecord : recordFor d (Turn.ending ⟨d, afterAll host earlier⟩) = recordAlone host d :=
      hfixed.recordFor_eq hd hearlier
    rw [turns, hnext, List.forall₂_cons_left_iff, List.forall₂_cons_left_iff]
    simp only [hrecord, ih (fun e he => hrest e (List.mem_cons_of_mem d he)) hearlier']

/-- What a run of all comes to, from the records that the validators have alone. -/
theorem runAll_result (hds : (validators.run host).result = .ok ds)
    (hfixed : HasFixedEndings (validators.run host).state ds) {report : RunReport} :
    (runAll.run host).result = .ok report ↔
      List.Forall₂ (fun d record => recordAlone (validators.run host).state d = .ok record) ds
        report.records := by
  have hnone : ∀ e ∈ ([] : List Descriptor), e ∈ ds := nofun
  rw [← hfixed.runEach_iff (fun d hd => hd) hnone, runAll, Session.run_bind_of_ok hds]
  simp only [Session.run_bind_eq_ok_iff, Session.run_note, Session.run_pure, Except.ok.injEq]
  constructor
  · rintro ⟨records, hrecords, -, -, rfl⟩
    exact hrecords
  · intro hrecords
    exact ⟨report.records, hrecords, (), trivial, rfl⟩

/-- What holds of all records of a run, from the record that each validator has alone. -/
theorem forall_records_iff {records : List RunRecord} {holds : RunRecord → Prop}
    (h : List.Forall₂ (fun d record => recordAlone host d = .ok record) ds records) :
    (∀ record ∈ records, holds record) ↔
      ∀ d ∈ ds, ∃ record, recordAlone host d = .ok record ∧ holds record := by
  induction h with
  | nil => simp
  | cons hrecord hrest ih => simp [ih, hrecord]

end Host

namespace RunReport

theorem hasIssues_eq_false_iff (report : RunReport) :
    report.hasIssues = false ↔ ∀ record ∈ report.records, record.passed = true := by
  have hall : report.passed = report.total ↔ ∀ record ∈ report.records, record.passed = true :=
    List.countP_eq_length
  have hle : report.passed ≤ report.total := List.countP_le_length
  rw [← hall, hasIssues, decide_eq_false_iff_not, failed]
  omega

end RunReport

end Vetting
