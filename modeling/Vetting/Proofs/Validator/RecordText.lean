import Vetting.Proofs.Validator.Batch

/-!
# Vetting.Proofs.Validator.RecordText

The texts that are made of records: the line of a report, and what is told where a validator is run
alone. They can all be made but for the message of a verdict that a validator returned, which may be
anything.

* `Turn.Records.isWritable`: which records can be written.
* `RunReport.exists_details_iff`: a report can be written if each of its records can.
-/

namespace Vetting

/-- A message that can be written: it tells whether it is more than white space, and if it is, it
has a text. -/
def Held.IsWritable (message : Held) : Prop :=
  ∃ isTelling, message.isTelling = .ok isTelling ∧
    (isTelling = true → ∃ text, message.text = .ok text)

/-- How a turn ends can be told, and written. -/
structure Turn.IsWritable (t : Turn) : Prop where
  tellable : t.IsTellable
  written : ∀ verdict, t.Gives verdict → verdict.message.IsWritable

namespace RunRecord

/-- All texts of a record can be made. -/
structure IsWritable (record : RunRecord) : Prop where
  line : ∃ text, record.line = .ok text
  statusMessage : ∃ text, record.statusMessage = .ok text
  detail : record.status = .invalidSignature → ∃ text, record.verdict.message.text = .ok text

variable {name : String} {verdict : Verdict} {passes : Bool}

/-- The line of a validator that returned needs the message, and nothing else. -/
theorem exists_line_iff (hpasses : verdict.passes = .ok passes) :
    (∃ text, line ⟨name, verdict, if passes then .passed else .failed, none⟩ = .ok text) ↔
      verdict.message.IsWritable := by
  cases htelling : verdict.message.isTelling with
  | error fault =>
    cases passes <;>
      simp [line, Held.IsWritable, htelling, bind, Except.bind]
  | ok isTelling =>
    cases isTelling <;> cases passes <;> cases htext : verdict.message.text <;>
      simp [line, Held.IsWritable, htelling, hpasses, htext, bind, Except.bind, pure, Except.pure]

theorem exists_statusMessage (hpasses : verdict.passes = .ok passes)
    (h : verdict.message.IsWritable) :
    ∃ text, statusMessage ⟨name, verdict, if passes then .passed else .failed, none⟩ =
      .ok text := by
  obtain ⟨isTelling, htelling, htext⟩ := h
  cases isTelling with
  | false =>
    cases passes <;>
      simp [statusMessage, htelling, hpasses, bind, Except.bind, pure, Except.pure]
  | true =>
    obtain ⟨text, htext⟩ := htext rfl
    cases passes <;> simp [statusMessage, htelling, htext, bind, Except.bind]

theorem isWritable_of_message (hpasses : verdict.passes = .ok passes)
    (h : verdict.message.IsWritable) :
    IsWritable ⟨name, verdict, if passes then .passed else .failed, none⟩ := by
  refine ⟨(exists_line_iff hpasses).2 h, exists_statusMessage hpasses h, fun hstatus => ?_⟩
  cases passes <;> cases hstatus

end RunRecord

namespace Turn.Records

variable {t : Turn} {record : RunRecord}

/-- All texts of a record can be made if the message of a verdict that was returned can be
written. -/
theorem isWritable (h : t.Records record)
    (hwritten : ∀ verdict, t.Gives verdict → verdict.message.IsWritable) : record.IsWritable := by
  cases h with
  | uncalled heligible => exact ⟨⟨_, rfl⟩, ⟨_, rfl⟩, fun _ => ⟨_, rfl⟩⟩
  | raised heligible hending => exact ⟨⟨_, rfl⟩, ⟨_, rfl⟩, fun hstatus => nomatch hstatus⟩
  | boolean heligible hkind hending htrue =>
    exact RunRecord.isWritable_of_message rfl ⟨false, rfl, nofun⟩
  | structured hgives hpasses => exact RunRecord.isWritable_of_message hpasses (hwritten _ hgives)

/-- The line of a report is enough to need that message. -/
theorem written_of_line (h : t.Records record) (hline : ∃ text, record.line = .ok text) :
    ∀ verdict, t.Gives verdict → verdict.message.IsWritable := by
  rintro verdict ⟨heligible, hkind, hending⟩
  cases h with
  | uncalled hineligible => cases hineligible.symm.trans heligible
  | raised _ hother =>
    rcases hother with ⟨fault, hfault⟩ | ⟨-, r, hr, hother⟩
    · cases hfault.symm.trans hending
    · exact absurd (Except.ok.inj (hr.symm.trans hending)) (hother verdict)
  | boolean _ hboolean => cases hboolean.symm.trans hkind
  | structured hgives hpasses =>
    obtain rfl := Returned.verdict.inj (Except.ok.inj (hgives.2.2.symm.trans hending))
    exact (RunRecord.exists_line_iff hpasses).1 hline

end Turn.Records

theorem exists_mapM_ok_iff {α β ε : Type} {f : α → Except ε β} {as : List α} :
    (∃ bs, as.mapM f = .ok bs) ↔ ∀ a ∈ as, ∃ b, f a = .ok b := by
  induction as with
  | nil => simp [pure, Except.pure]
  | cons a rest ih =>
    rw [List.forall_mem_cons, ← ih, List.mapM_cons]
    cases f a <;> cases rest.mapM f <;> simp [bind, Except.bind, pure, Except.pure]

/-- A report can be written exactly when each of its records has a line. -/
theorem RunReport.exists_details_iff {report : RunReport} :
    (∃ text, report.details = .ok text) ↔
      ∀ record ∈ report.records, ∃ text, record.line = .ok text := by
  rw [← exists_mapM_ok_iff]
  obtain ⟨records⟩ := report
  cases records with
  | nil => simp [details, pure, Except.pure]
  | cons first rest =>
    cases hlines : (first :: rest).mapM RunRecord.line <;> simp [details, hlines, Except.map]

end Vetting
