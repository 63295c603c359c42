import Vetting.Proofs.CommandLine.Arguments
import Vetting.Proofs.CommandLine.Importing
import Vetting.Proofs.Validator.FixedEnding
import Vetting.Proofs.Validator.RecordText
import Vetting.Proofs.Validator.Registry

/-!
# Vetting.Proofs.CommandLine.ExitCode

The code with which a command line ends. Running all validators and running each of them alone come
to the same verdict when the validators end in the same way whenever they are called, as long as
how they end can be written and the console can be written to. Where an import fails, none of it
happens.

* `Starts.exists_isReady`: a command is carried out once the modules are imported and the settings
  taken over.
* `runAll_eq_ok_iff`, `runOne_eq_ok_iff`: either command, from the records that the validators have
  alone.
* `exitsAgree_iff`, `breaksOff_iff`: when the codes of the two commands agree, and when both break
  off at an import; together with names that stand for nothing, `exits_agree_iff`.
-/

namespace Vetting

namespace Console

variable {console : Console} {options : List String} {a : Arguments}

/-! ## Writing -/

/-- A step that succeeds as long as the console can be written to. -/
def Writes (step : Session Console Unit) : Prop :=
  ∀ console : Console, console.isBroken = false →
    (step.run console).result = .ok () ∧ (step.run console).state.isBroken = false

theorem writes_say (text : String) : Writes (say text) := by
  intro console hbroken
  simp [say, Session.run_bind, hbroken]

theorem Writes.bind {first : Session Console Unit} {next : Unit → Session Console Unit}
    (hfirst : Writes first) (hnext : Writes (next ())) : Writes (first >>= next) := by
  intro console hbroken
  obtain ⟨hresult, hstate⟩ := hfirst console hbroken
  rw [Session.run_bind_of_ok hresult]
  exact hnext _ hstate

/-- A text that is made on the way has to be there. -/
theorem Writes.lift_bind {made : Except Fault String} {next : String → Session Console Unit}
    (hmade : ∃ text, made = .ok text) (hnext : ∀ text, Writes (next text)) :
    Writes ((liftM made : Session Console String) >>= next) := by
  obtain ⟨text, rfl⟩ := hmade
  intro console hbroken
  obtain ⟨hresult, hstate⟩ := hnext text console hbroken
  rw [Session.run_bind_of_ok rfl]
  exact ⟨hresult, hstate⟩

theorem writes_sayRecord {record : RunRecord} (h : record.IsWritable) :
    Writes (sayRecord record) := by
  unfold sayRecord
  refine (writes_say _).bind ((writes_say _).bind (.lift_bind h.statusMessage fun message => ?_))
  refine (writes_say _).bind ?_
  split
  · rename_i hstatus
    exact .lift_bind (h.detail hstatus) fun _ => writes_say _
  · exact writes_say _
  · intro console hbroken
    exact ⟨rfl, hbroken⟩

theorem say_of_isBroken (hbroken : console.isBroken = true) (text : String) {u : Unit} :
    ((say text).run console).result ≠ .ok u := by
  simp [say, Session.run_bind, hbroken]

/-! ## What happens before a command is carried out -/

/-- Take over the settings of the arguments, and look for validators with a new registry. -/
def getReady (a : Arguments) : Session Console (List Descriptor) := do
  let console ← Session.get
  let settings := console.host.workspace.settings.override (overridesOf a)
  onHost (Host.onWorld (World.onWorkspace (Workspace.configure settings)))
  onHost (Session.modify fun host => { host with registry := {} })
  onHost Host.validators

/-- The command of some arguments gets as far as to find the validators `ds` in the host `host`:
all modules are imported, and the settings are taken over. -/
structure Starts (console : Console) (a : Arguments) (host : Host) (ds : List Descriptor) :
    Prop where
  imported : ((importAll a.modules).run console).result = .ok true
  found : ((getReady a).run ((importAll a.modules).run console).state).result = .ok ds
  host_eq : ((getReady a).run ((importAll a.modules).run console).state).state.host = host

/-- The code that a command ends with, where it does not leave the program. -/
def codeOf (ending : Except Fault Int) : Except Fault Int :=
  match ending with
  | .ok code => .ok code
  | .error fault =>
    if fault.isA "KeyboardInterrupt" then .ok exitInterrupted
    else if fault.isError then
      match (Record.ofFault .error .commands "Unhandled exception: %s" [] fault true).2 with
      | none => .ok exitBroken
      | some trouble => .error trouble
    else .error fault

theorem performSafely_eq (a : Arguments) (console : Console) :
    ((performSafely a).run console).result =
        codeOf ((configureAndPerform a).run console).result ∧
      ((performSafely a).run console).state = ((configureAndPerform a).run console).state := by
  rcases hrun : (configureAndPerform a).run console with ⟨ending, after, journal⟩
  simp only [performSafely, Session.run_bind, Session.run_attempt, hrun, codeOf]
  cases ending with
  | ok code => simp
  | error fault =>
    cases hinterrupt : fault.isA "KeyboardInterrupt" with
    | true => simp [hinterrupt, Except.map]
    | false =>
      cases herror : fault.isError with
      | false => simp [hinterrupt, herror]
      | true =>
        cases htrouble : (Record.ofFault .error .commands "Unhandled exception: %s" [] fault
            true).2 <;>
          simp [hinterrupt, herror, htrouble, Session.run_noteFault, Except.map]

/-- Where validators can be looked for, a command is carried out in a console that differs by its
host: the settings are taken over, and the registry is new. -/
theorem configureAndPerform_of_getReady {ds : List Descriptor}
    (h : ((getReady a).run console).result = .ok ds) :
    ∃ ready : Host, ready.registry.found? = none ∧
      (Host.validators.run ready).result = .ok ds ∧
      (Host.validators.run ready).state = ((getReady a).run console).state.host ∧
      ∀ command : Command,
        ((configureAndPerform { a with command }).run console).result =
            ((perform command).run { console with host := ready }).result ∧
          ((configureAndPerform { a with command }).run console).state =
            ((perform command).run { console with host := ready }).state := by
  rcases hconfigured : (Workspace.configure
      (console.host.workspace.settings.override (overridesOf a))).run console.host.workspace with
    ⟨ending, workspace, journal⟩
  cases ending with
  | error fault =>
    simp [getReady, Session.run_bind, onHost, Host.onWorld, World.onWorkspace, hconfigured] at h
  | ok u =>
    refine ⟨{ console.host with workspace, registry := {} }, rfl, ?_, ?_, ?_⟩
    · simpa [getReady, Session.run_bind, onHost, Host.onWorld, World.onWorkspace, hconfigured]
        using h
    · simp [getReady, Session.run_bind, onHost, Host.onWorld, World.onWorkspace, hconfigured]
    · intro command
      have hsame : overridesOf { a with command } = overridesOf a := rfl
      simp [configureAndPerform, Session.run_bind, onHost, Host.onWorld, World.onWorkspace, hsame,
        hconfigured]

/-- The console in which a command that starts is carried out: nothing was written yet. -/
structure IsReady (console : Console) (a : Arguments) (host : Host) (ds : List Descriptor)
    (ready : Console) : Prop where
  isBroken_eq : ready.isBroken = console.isBroken
  output_eq : ready.output = console.output
  found : (Host.validators.run ready.host).result = .ok ds
  host_eq : (Host.validators.run ready.host).state = host
  nodup : (ds.map (·.qualifiedName)).Nodup
  result_eq (command : Command) : ((runArguments { a with command }).run console).result =
    codeOf ((perform command).run ready).result
  state_eq (command : Command) : ((runArguments { a with command }).run console).state =
    ((perform command).run ready).state

theorem Starts.exists_isReady {host : Host} {ds : List Descriptor}
    (h : Starts console a host ds) : ∃ ready, IsReady console a host ds ready := by
  obtain ⟨world, himported⟩ := onlyWorld_importAll a.modules console
  obtain ⟨ready, hnew, hds, hhost, hperform⟩ := configureAndPerform_of_getReady h.found
  have hrun : ∀ command : Command,
      ((runArguments { a with command }).run console).result =
          codeOf ((perform command).run { console with host := ready }).result ∧
        ((runArguments { a with command }).run console).state =
          ((perform command).run { console with host := ready }).state := by
    intro command
    rw [himported] at hperform
    obtain ⟨hresult, hstate⟩ := hperform command
    have hsafely := performSafely_eq { a with command } ((importAll a.modules).run console).state
    rw [himported, hresult, hstate] at hsafely
    rw [runArguments, Session.run_bind_of_ok h.imported, himported]
    exact hsafely
  exact ⟨{ console with host := ready }, {
    isBroken_eq := rfl
    output_eq := rfl
    found := hds
    host_eq := hhost.trans h.host_eq
    nodup := Host.nodup_validators hnew hds
    result_eq := fun command => (hrun command).1
    state_eq := fun command => (hrun command).2 }⟩

/-! ## Carrying out a command -/

theorem run_onHost {α : Type} (step : Session Host α) (console : Console) :
    (onHost step).run console =
      ⟨(step.run console.host).result, { console with host := (step.run console.host).state },
        (step.run console.host).journal⟩ :=
  rfl

section Commands

variable {ds : List Descriptor} {d : Descriptor} {name : String} {code : Int}

theorem runAll_of_isBroken (hbroken : console.isBroken = true) :
    (runAll.run console).result ≠ .ok code := by
  intro h
  rw [runAll, Session.run_bind_eq_ok_iff] at h
  obtain ⟨report, -, h⟩ := h
  rw [Session.run_bind_eq_ok_iff, run_onHost] at h
  obtain ⟨u, hsay, -⟩ := h
  refine say_of_isBroken ?_ _ hsay
  exact hbroken

/-- Running all ends with the code that the records of the validators call for, where the report can
be written. -/
theorem runAll_eq_ok_iff (hbroken : console.isBroken = false)
    (hds : (Host.validators.run console.host).result = .ok ds)
    (hfixed : Host.HasFixedEndings (Host.validators.run console.host).state ds) :
    (runAll.run console).result = .ok code ↔
      ∃ report : RunReport,
        List.Forall₂ (fun d record =>
          Host.recordAlone (Host.validators.run console.host).state d = .ok record) ds
            report.records ∧
        (∃ text, report.details = .ok text) ∧
        (if report.hasIssues then exitFailed else exitOk) = code := by
  rw [runAll, Session.run_bind_eq_ok_iff]
  apply exists_congr
  intro report
  rw [run_onHost, Host.runAll_result hds hfixed]
  apply and_congr_right
  intro hrecords
  obtain ⟨hsummary, hafter⟩ := writes_say ("Run All Summary: " ++ report.summary ++ "\n")
    { console with host := (Host.runAll.run console.host).state } hbroken
  rw [Session.run_bind_of_ok hsummary]
  cases hdetails : report.details with
  | error fault => simp [Session.run_bind]
  | ok text =>
    obtain ⟨hsaid, -⟩ := writes_say (text ++ "\n") _ hafter
    rw [Session.run_bind_of_ok rfl, Session.run_liftM]
    dsimp only
    rw [Session.run_bind_of_ok hsaid]
    simp

theorem run_find (name : String) (hds : (Host.validators.run console.host).result = .ok ds) :
    ((onHost (Host.find name)).run console).result = .ok (Registry.findIn ds name) ∧
      ((onHost (Host.find name)).run console).state =
        { console with host := (Host.validators.run console.host).state } := by
  rw [run_onHost, Host.find, Session.run_bind_of_ok hds]
  exact ⟨rfl, rfl⟩

/-- Running the validator of a name ends with the code that its record calls for, where that can be
written. -/
theorem runOne_eq_ok (hbroken : console.isBroken = false)
    (hds : (Host.validators.run console.host).result = .ok ds)
    (hd : Registry.findIn ds name = some d) {record : RunRecord}
    (hrecord : Host.recordAlone (Host.validators.run console.host).state d = .ok record)
    (hwritable : record.IsWritable) :
    ((runOne name).run console).result = .ok (if record.passed then exitOk else exitFailed) := by
  obtain ⟨hfound, hstate⟩ := run_find name hds
  rw [hd] at hfound
  have hrun : ((onHost (Host.runValidator d)).run
      { console with host := (Host.validators.run console.host).state }).result = .ok record :=
    (Host.run_runValidator d _).1.trans hrecord
  obtain ⟨hsaid, -⟩ := writes_sayRecord hwritable
    { console with
      host := ((Host.runValidator d).run (Host.validators.run console.host).state).state } hbroken
  rw [runOne, Session.run_bind_of_ok hfound, hstate]
  dsimp only
  rw [Session.run_bind_of_ok hrun, run_onHost]
  dsimp only
  rw [Session.run_bind_of_ok hsaid, Session.run_pure]

theorem runOne_unknown (hds : (Host.validators.run console.host).result = .ok ds)
    (hnone : Registry.findIn ds name = none) :
    ((runOne name).run console).result = .ok exitBroken ∧
      ((runOne name).run console).state.output = console.output := by
  obtain ⟨hfound, hstate⟩ := run_find name hds
  rw [hnone] at hfound
  rw [runOne, Session.run_bind_of_ok hfound, hstate]
  exact ⟨rfl, rfl⟩

end Commands

/-! ## The codes of the two commands -/

/-- How a command line ends. -/
def exit (console : Console) (words : List String) : Except Fault Int :=
  ((runWords words).run console).result

/-- Running all validators passes exactly when each of them passes alone, and ends with the code of
a failed run otherwise. Each can be run alone: it passes or fails. -/
structure ExitsAgree (console : Console) (options : List String) (ds : List Descriptor) : Prop where
  passed : console.exit ("run-all" :: options) = .ok exitOk ↔
    ∀ d ∈ ds, console.exit ("run" :: d.qualifiedName :: options) = .ok exitOk
  failed : console.exit ("run-all" :: options) ≠ .ok exitOk →
    console.exit ("run-all" :: options) = .ok exitFailed
  found : ∀ d ∈ ds, console.exit ("run" :: d.qualifiedName :: options) = .ok exitOk ∨
    console.exit ("run" :: d.qualifiedName :: options) = .ok exitFailed

/-- A command line ends as broken, and nothing was done but the imports. Those change nothing but
what the host acts on. -/
structure BreaksOff (console : Console) (a : Arguments) (words : List String) : Prop where
  code : console.exit words = .ok exitBroken
  state : ((runWords words).run console).state = ((importAll a.modules).run console).state
  untouched : ∃ world : World, ((runWords words).run console).state =
    { console with host := { console.host with toWorld := world } }

theorem codeOf_eq_ok_iff {ending : Except Fault Int} {code : Int}
    (hcode : code = exitOk ∨ code = exitFailed) : codeOf ending = .ok code ↔ ending = .ok code := by
  cases ending with
  | ok found => rfl
  | error fault =>
    have hother : code ≠ exitInterrupted ∧ code ≠ exitBroken := by
      rcases hcode with rfl | rfl <;> decide
    simp only [codeOf, reduceCtorEq, iff_false]
    intro h
    split at h
    · exact hother.1 (Except.ok.inj h).symm
    · split at h
      · split at h
        · exact hother.2 (Except.ok.inj h).symm
        · cases h
      · cases h

section Agreement

variable {host : Host} {ds : List Descriptor} {records : List RunRecord}

theorem runWords_runAll (hread : Arguments.read ("run-all" :: options) = .run a) :
    runWords ("run-all" :: options) = runArguments { a with command := .runAll } := by
  have hsame : { a with command := .runAll } = a := by
    rw [← (Arguments.read_run hread).1]
  simp only [runWords, hread, hsame]

theorem runWords_run {name : String} (hname : Arguments.IsName options a name) :
    runWords ("run" :: name :: options) = runArguments { a with command := .run name } := by
  rw [Arguments.IsName] at hname
  simp only [runWords, hname]

theorem exit_unknown {name : String} (h : Starts console a host ds)
    (hname : Arguments.IsName options a name) (hnone : ∀ d ∈ ds, ¬ d.Answers name) :
    console.exit ("run" :: name :: options) = .ok exitBroken ∧
      ((runWords ("run" :: name :: options)).run console).state.output = console.output := by
  obtain ⟨ready, hready⟩ := h.exists_isReady
  obtain ⟨hcode, houtput⟩ := runOne_unknown hready.found (Registry.findIn_eq_none_iff.2 hnone)
  rw [exit, runWords_run hname, hready.result_eq, hready.state_eq, perform, hcode, houtput]
  exact ⟨rfl, hready.output_eq⟩

theorem IsReady.exit_runAll_iff {ready : Console} {code : Int}
    (hready : IsReady console a host ds ready)
    (hread : Arguments.read ("run-all" :: options) = .run a)
    (hcode : code = exitOk ∨ code = exitFailed) :
    console.exit ("run-all" :: options) = .ok code ↔ (runAll.run ready).result = .ok code := by
  rw [exit, runWords_runAll hread, hready.result_eq, codeOf_eq_ok_iff hcode, perform]

theorem exists_records_of_exitsAgree {ready : Console}
    (hready : IsReady console a host ds ready)
    (hread : Arguments.read ("run-all" :: options) = .run a) (hfixed : Host.HasFixedEndings host ds)
    (hagree : ExitsAgree console options ds) :
    ready.isBroken = false ∧ ∃ report : RunReport,
      List.Forall₂ (fun d record => Host.recordAlone host d = .ok record) ds report.records ∧
        ∃ text, report.details = .ok text := by
  obtain rfl := hready.host_eq
  -- one of the two codes is reached, so something was written, and that takes a report
  obtain ⟨code, hcode⟩ : ∃ code, (runAll.run ready).result = .ok code := by
    by_cases hpassed : console.exit ("run-all" :: options) = .ok exitOk
    · exact ⟨exitOk, (hready.exit_runAll_iff hread (.inl rfl)).1 hpassed⟩
    · exact ⟨exitFailed, (hready.exit_runAll_iff hread (.inr rfl)).1 (hagree.failed hpassed)⟩
  have hbroken : ready.isBroken = false := by
    cases hbroken : ready.isBroken with
    | false => rfl
    | true => exact absurd hcode (runAll_of_isBroken hbroken)
  obtain ⟨report, hrecords, hdetails, -⟩ := (runAll_eq_ok_iff hbroken hready.found hfixed).1 hcode
  exact ⟨hbroken, report, hrecords, hdetails⟩

theorem IsReady.exit_runAll_eq {ready : Console} (hready : IsReady console a host ds ready)
    (hread : Arguments.read ("run-all" :: options) = .run a) (hfixed : Host.HasFixedEndings host ds)
    (hbroken : ready.isBroken = false)
    (hrecords : List.Forall₂ (fun d record => Host.recordAlone host d = .ok record) ds records)
    (hdetails : ∃ text, (RunReport.mk records).details = .ok text) :
    console.exit ("run-all" :: options) =
      .ok (if (RunReport.mk records).hasIssues then exitFailed else exitOk) := by
  obtain rfl := hready.host_eq
  have hrun :=
    (runAll_eq_ok_iff hbroken hready.found hfixed).2 ⟨⟨records⟩, hrecords, hdetails, rfl⟩
  rw [exit, runWords_runAll hread, hready.result_eq, perform, hrun]
  rfl

theorem IsReady.exit_run_eq {ready : Console} (hready : IsReady console a host ds ready)
    (hbroken : ready.isBroken = false) {d : Descriptor} (hd : d ∈ ds)
    (hname : Arguments.IsName options a d.qualifiedName) {record : RunRecord}
    (hrecord : Host.recordAlone host d = .ok record) (hwritable : record.IsWritable) :
    console.exit ("run" :: d.qualifiedName :: options) =
      .ok (if record.passed then exitOk else exitFailed) := by
  obtain rfl := hready.host_eq
  have hfind := Registry.findIn_qualifiedName hready.nodup hd
  have hrun := runOne_eq_ok hbroken hready.found hfind hrecord hwritable
  rw [exit, runWords_run hname, hready.result_eq, perform, hrun]
  rfl

/-- Where each validator has a record that can be written, the codes are those that the records call
for. -/
theorem exitsAgree_of_recordAlone {ready : Console} (hready : IsReady console a host ds ready)
    (hread : Arguments.read ("run-all" :: options) = .run a) (hfixed : Host.HasFixedEndings host ds)
    (hnames : ∀ d ∈ ds, Arguments.IsName options a d.qualifiedName)
    (hbroken : ready.isBroken = false)
    (hrecord : ∀ d ∈ ds, ∃ record, Host.recordAlone host d = .ok record ∧ record.IsWritable) :
    ExitsAgree console options ds := by
  obtain ⟨records, hboth⟩ := exists_forall₂_iff.2 hrecord
  have hrecords : List.Forall₂ (fun d record => Host.recordAlone host d = .ok record) ds records :=
    hboth.imp fun d record h => h.1
  have hdetails : ∃ text, (RunReport.mk records).details = .ok text := by
    refine RunReport.exists_details_iff.2 ((Host.forall_records_iff hrecords).2 fun d hd => ?_)
    obtain ⟨record, hrecord, hwritable⟩ := hrecord d hd
    exact ⟨record, hrecord, hwritable.line⟩
  have hall := hready.exit_runAll_eq hread hfixed hbroken hrecords hdetails
  have hissues :=
    (RunReport.hasIssues_eq_false_iff ⟨records⟩).trans (Host.forall_records_iff hrecords)
  have hone : ∀ d ∈ ds, console.exit ("run" :: d.qualifiedName :: options) = .ok exitOk ↔
      ∃ record, Host.recordAlone host d = .ok record ∧ record.passed = true := by
    intro d hd
    obtain ⟨record, hrecord, hwritable⟩ := hrecord d hd
    rw [hready.exit_run_eq hbroken hd (hnames d hd) hrecord hwritable]
    cases hverdict : record.passed <;> simp [hrecord, hverdict, exitOk, exitFailed]
  have hfound : ∀ d ∈ ds, console.exit ("run" :: d.qualifiedName :: options) = .ok exitOk ∨
      console.exit ("run" :: d.qualifiedName :: options) = .ok exitFailed := by
    intro d hd
    obtain ⟨record, hrecord, hwritable⟩ := hrecord d hd
    rw [hready.exit_run_eq hbroken hd (hnames d hd) hrecord hwritable]
    cases record.passed <;> simp
  rw [← forall₂_congr hone] at hissues
  cases hverdict : (RunReport.mk records).hasIssues with
  | false =>
    rw [hverdict] at hall
    exact ⟨iff_of_true hall (hissues.1 hverdict), fun hother => absurd hall hother, hfound⟩
  | true =>
    rw [hverdict] at hall hissues
    refine ⟨?_, fun _ => hall, hfound⟩
    rw [hall, ← hissues]
    simp [exitOk, exitFailed]

/-- Where the validators end in a fixed way, the codes agree exactly when the console can be written
to and how each of them ends can be written. -/
theorem exitsAgree_iff (hread : Arguments.read ("run-all" :: options) = .run a)
    (h : Starts console a host ds) (hfixed : Host.HasFixedEndings host ds)
    (hcontained : ∀ d ∈ ds, ∀ fault, Turn.Raises ⟨d, host⟩ fault → Host.isContained fault = true)
    (hnames : ∀ d ∈ ds, Arguments.IsPlain d.qualifiedName) :
    ExitsAgree console options ds ↔
      console.isBroken = false ∧ ∀ d ∈ ds, Turn.IsWritable ⟨d, host⟩ := by
  obtain ⟨ready, hready⟩ := h.exists_isReady
  have htellable : ∀ d ∈ ds, (∃ record, Host.recordAlone host d = .ok record) ↔
      Turn.IsTellable ⟨d, host⟩ :=
    fun d hd => Host.exists_recordFor_iff (hcontained d hd)
  rw [← hready.isBroken_eq]
  constructor
  · intro hagree
    obtain ⟨hbroken, report, hrecords, hdetails⟩ :=
      exists_records_of_exitsAgree hready hread hfixed hagree
    refine ⟨hbroken, fun d hd => ?_⟩
    obtain ⟨record, hrecord, hline⟩ :=
      (Host.forall_records_iff hrecords).1 (RunReport.exists_details_iff.1 hdetails) d hd
    have hrecords : Turn.Records ⟨d, host⟩ record := Host.records_of_recordFor hrecord
    exact ⟨(htellable d hd).1 ⟨record, hrecord⟩, hrecords.written_of_line hline⟩
  · rintro ⟨hbroken, hwritable⟩
    have hwords : ∀ d ∈ ds, Arguments.IsName options a d.qualifiedName :=
      fun d hd => (Arguments.read_run hread).2 d.qualifiedName (hnames d hd)
    refine exitsAgree_of_recordAlone hready hread hfixed hwords hbroken fun d hd => ?_
    obtain ⟨record, hrecord⟩ := (htellable d hd).2 (hwritable d hd).tellable
    have hrecords : Turn.Records ⟨d, host⟩ record := Host.records_of_recordFor hrecord
    exact ⟨record, hrecord, hrecords.isWritable (hwritable d hd).written⟩

theorem breaksOff_of_false {command : Command} {words : List String}
    (hwords : runWords words = runArguments { a with command })
    (hfalse : ((importAll a.modules).run console).result = .ok false) :
    BreaksOff console a words := by
  have hrun : ((runWords words).run console).result = .ok exitBroken ∧
      ((runWords words).run console).state = ((importAll a.modules).run console).state := by
    rw [hwords, runArguments, Session.run_bind_of_ok hfalse]
    exact ⟨rfl, rfl⟩
  refine ⟨hrun.1, hrun.2, ?_⟩
  rw [hrun.2]
  exact onlyWorld_importAll a.modules console

/-- Where an import fails, nothing is done but the imports, and both commands end as broken exactly
when no import ends the program. -/
theorem breaksOff_iff (hread : Arguments.read ("run-all" :: options) = .run a)
    (hfails : ∃ i ∈ imports console a.modules, i.Fails) :
    (BreaksOff console a ("run-all" :: options) ∧
        ∀ name, Arguments.IsName options a name → BreaksOff console a ("run" :: name :: options)) ↔
      ∀ i ∈ imports console a.modules, ¬ i.Leaves := by
  constructor
  · rintro ⟨hall, -⟩
    have hcode := hall.code
    rw [exit, runWords_runAll hread, runArguments, Session.run_bind_eq_ok_iff] at hcode
    obtain ⟨areThere, hresult, -⟩ := hcode
    exact exists_importAll_iff.1 ⟨areThere, hresult⟩
  · intro hstays
    have hfalse := (importAll_of_fails hfails).2 hstays
    refine ⟨breaksOff_of_false (runWords_runAll hread) hfalse, ?_⟩
    intro name hname
    exact breaksOff_of_false (runWords_run hname) hfalse

/-- When the codes of the two commands agree, each with the names that it can be given, and what
happens to both where an import fails. -/
theorem exits_agree_iff (console : Console)
    (hread : Arguments.read ("run-all" :: options) = .run a) :
    (∀ name, Arguments.IsPlain name → Arguments.IsName options a name) ∧
      (∀ host ds, Starts console a host ds →
        (Host.HasFixedEndings host ds →
          (∀ d ∈ ds, ∀ fault, Turn.Raises ⟨d, host⟩ fault → Host.isContained fault = true) →
          (∀ d ∈ ds, Arguments.IsPlain d.qualifiedName) →
          (ExitsAgree console options ds ↔
            console.isBroken = false ∧ ∀ d ∈ ds, Turn.IsWritable ⟨d, host⟩)) ∧
        ∀ name, Arguments.IsName options a name → (∀ d ∈ ds, ¬ d.Answers name) →
          console.exit ("run" :: name :: options) = .ok exitBroken ∧
            ((runWords ("run" :: name :: options)).run console).state.output = console.output) ∧
      ((∃ i ∈ imports console a.modules, i.Fails) →
        ((BreaksOff console a ("run-all" :: options) ∧
            ∀ name, Arguments.IsName options a name →
              BreaksOff console a ("run" :: name :: options)) ↔
          ∀ i ∈ imports console a.modules, ¬ i.Leaves)) := by
  refine ⟨(Arguments.read_run hread).2, ?_, breaksOff_iff hread⟩
  intro host ds h
  refine ⟨exitsAgree_iff hread h, ?_⟩
  intro name hname hnone
  exact exit_unknown h hname hnone

/-- A console of the two tagged validators `m.a` and `m.b`, which have one reply each. -/
def ofReplies (a b : Reply) : Console where
  host := { Host.ofReplies a b with
    program := { (Host.ofReplies a b).program with table := [.function 0, .function 1] } }

/-- The host in which commands are carried out there. -/
def hostOfReplies (a b : Reply) : Host :=
  ((getReady { command := .runAll }).run (ofReplies a b)).state.host

theorem starts_ofReplies (a b : Reply) :
    Starts (ofReplies a b) { command := .runAll } (hostOfReplies a b) Host.toldOfReplies where
  imported := rfl
  found := by cbv
  host_eq := rfl

theorem hasFixedEndings_ofReplies (a b : Reply) :
    Host.HasFixedEndings (hostOfReplies a b) Host.toldOfReplies := by
  apply Host.hasFixedEndings_of_calls
  · simp only [Host.toldOfReplies, List.forall_mem_cons, List.not_mem_nil, false_implies,
      implies_true, and_true]
    constructor
    · exact fun calls => ⟨calls ++ [0], by cases a <;> cbv⟩
    · exact fun calls => ⟨calls ++ [1], by cases b <;> cbv⟩
  · simp only [Host.toldOfReplies, List.forall_mem_cons, List.not_mem_nil, false_implies,
      implies_true, and_true]
    constructor
    · intro calls
      cases a <;> cbv
    · intro calls
      cases b <;> cbv

/-- How the two validators end: the first one raises and the second one returns. -/
theorem ending_hostOfReplies (fault : Fault) (r : Returned) :
    ∀ d ∈ Host.toldOfReplies,
      Turn.ending ⟨d, hostOfReplies (.raises fault) (.returns r)⟩ = .error fault ∨
        Turn.ending ⟨d, hostOfReplies (.raises fault) (.returns r)⟩ = .ok r := by
  simp only [Host.toldOfReplies, List.forall_mem_cons, List.not_mem_nil, false_implies,
    implies_true, and_true]
  refine ⟨.inl ?_, .inr ?_⟩ <;> cbv

theorem eq_of_raises_hostOfReplies {fault other : Fault} {r : Returned} {d : Descriptor}
    (hd : d ∈ Host.toldOfReplies)
    (hraises : Turn.Raises ⟨d, hostOfReplies (.raises fault) (.returns r)⟩ other) :
    other = fault := by
  rcases ending_hostOfReplies fault r d hd with hending | hending
  · exact Except.error.inj (hraises.2.symm.trans hending)
  · cases hraises.2.symm.trans hending

theorem isContained_of_raises_hostOfReplies {fault : Fault}
    (hfault : Host.isContained fault = true) (r : Returned) :
    ∀ d ∈ Host.toldOfReplies, ∀ other,
      Turn.Raises ⟨d, hostOfReplies (.raises fault) (.returns r)⟩ other →
        Host.isContained other = true := by
  intro d hd other hraises
  rwa [eq_of_raises_hostOfReplies hd hraises]

/-- One validator raises and the other passes; and a module whose name is empty. -/
theorem exits_agree_raising :
    ExitsAgree (ofReplies (.raises (.withText "ValueError" "c")) (.returns (.value (.bool true))))
        [] Host.toldOfReplies ∧
      BreaksOff (ofReplies (.raises (.withText "ValueError" "c")) (.returns (.value (.bool true))))
        { command := .runAll, modules := [""] } ["run-all", "--module", ""] := by
  constructor
  · have hread : Arguments.read ["run-all"] = .run { command := .runAll } := by decide
    obtain ⟨-, hstarts, -⟩ := exits_agree_iff (ofReplies (.raises (.withText "ValueError" "c"))
      (.returns (.value (.bool true)))) hread
    refine ((hstarts _ _ (starts_ofReplies _ _)).1 (hasFixedEndings_ofReplies _ _)
      (isContained_of_raises_hostOfReplies rfl _) (by decide)).2 ⟨rfl, fun d hd => ?_⟩
    have hgives : ∀ verdict, ¬ Turn.Gives ⟨d, hostOfReplies (.raises (.withText "ValueError" "c"))
        (.returns (.value (.bool true)))⟩ verdict := by
      have hkinds : ∀ d ∈ Host.toldOfReplies, d.returnKind = .boolean := by decide
      rintro verdict ⟨-, hkind, -⟩
      cases hkind.symm.trans (hkinds d hd)
    refine ⟨⟨fun other hraises => ?_, fun verdict h => absurd h (hgives verdict)⟩,
      fun verdict h => absurd h (hgives verdict)⟩
    rw [eq_of_raises_hostOfReplies hd hraises]
    exact ⟨⟨_, rfl⟩, _, rfl⟩
  · have hread : Arguments.read ["run-all", "--module", ""] =
        .run { command := .runAll, modules := [""] } := by decide
    obtain ⟨-, -, hbreaks⟩ := exits_agree_iff (ofReplies (.raises (.withText "ValueError" "c"))
      (.returns (.value (.bool true)))) hread
    have himports : imports (ofReplies (.raises (.withText "ValueError" "c"))
        (.returns (.value (.bool true)))) [""] =
          [⟨"", .error (.withText "ValueError" "Empty module name")⟩] := by
      simp [imports, importModule]
    rw [himports] at hbreaks
    refine ((hbreaks ⟨_, List.mem_cons_self, _, rfl, rfl⟩).2 fun i hmem => ?_).1
    obtain rfl := List.mem_singleton.1 hmem
    exact Import.not_leaves_of_said rfl rfl rfl

/-- A validator that raises a fault of this library with a number for its message. -/
theorem exits_agree_speechless :
    ¬ ∀ (console : Console) (options : List String) (a : Arguments) (host : Host)
        (ds : List Descriptor), Arguments.read ("run-all" :: options) = .run a →
      Starts console a host ds → Host.HasFixedEndings host ds →
      (∀ d ∈ ds, ∀ fault, Turn.Raises ⟨d, host⟩ fault → Host.isContained fault = true) →
      (∀ d ∈ ds, Arguments.IsPlain d.qualifiedName) → console.isBroken = false →
      ExitsAgree console options ds := by
  intro hall
  have hread : Arguments.read ["run-all"] = .run { command := .runAll } := by decide
  have hstarts := starts_ofReplies (.raises (.speechless .validation (.int 5)))
    (.returns (.value (.bool true)))
  have hfixed := hasFixedEndings_ofReplies (.raises (.speechless .validation (.int 5)))
    (.returns (.value (.bool true)))
  have hagree := hall _ [] _ _ _ hread hstarts hfixed (isContained_of_raises_hostOfReplies rfl _)
    (by decide) rfl
  obtain ⟨ready, hready⟩ := hstarts.exists_isReady
  obtain ⟨-, report, hrecords, -⟩ := exists_records_of_exitsAgree hready hread hfixed hagree
  obtain ⟨record, -, hrecord, -⟩ := List.forall₂_cons_left_iff.1 hrecords
  have hending : Turn.ending ⟨⟨"m.a", "m", .boolean, true, 0, .function 0⟩,
      hostOfReplies (.raises (.speechless .validation (.int 5)))
        (.returns (.value (.bool true)))⟩ = .error (.speechless .validation (.int 5)) := by
    cbv
  rw [Host.recordAlone, hending] at hrecord
  cases hrecord

end Agreement

end Console

end Vetting
