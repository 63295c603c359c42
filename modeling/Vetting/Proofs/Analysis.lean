import Vetting.Analysis
import Vetting.Proofs.Header.Raising
import Vetting.Proofs.Header.RoundTrip
import Vetting.Proofs.Session

/-!
# Vetting.Proofs.Analysis

The search in a batch, for an index that is there. What is found in a source does not depend on the
other sources, and a source that cannot be read costs no more than its own results, as long as the
fault can be put into words: the report and the journal of a batch are those of its sources, put
together in their order. A header that raises ends the search as well.

* `Analysis.run_unusedIn`: the search in one text finds what the rule finds, and ends where it
  started.
* `Analysis.run_search`: the outcome of a batch in closed form, by induction on its sources.
* `Analysis.search_sources_iff`: what the report and the warnings of a batch say, and exactly when
  they are there.
-/

namespace Vetting

/-! ## Reports -/

namespace AnalysisReport

variable (a b : AnalysisReport)

theorem append_def :
    a ++ b = ⟨a.instances ++ b.instances, a.scanned + b.scanned, a.skipped ++ b.skipped⟩ := rfl

theorem passes_verdict_iff : a.verdict.passes = .ok true ↔ a.instances = [] := by
  simp only [verdict]
  cases a.instances with
  | nil => simp
  | cons found rest => simp

end AnalysisReport

/-! ## Sources -/

namespace Source

/-- Whether reading the source gives a text. -/
def isReadable (source : Source) : Bool := source.text.isOk

/-- A source whose reading gives a text, or fails with a fault of reading. -/
def IsIsolated (source : Source) : Prop :=
  ∀ fault, source.text = .error fault → fault.isReadFailure = true

/-- A source that can be searched: the fault of reading it, if there is one, can be put into words,
and reading its header raises nothing. -/
structure IsSearchable (dialect : Dialect) (source : Source) : Prop where
  told : ∀ fault, source.text = .error fault → ∃ message, fault.said = .ok message
  sound : ∀ text, source.text = .ok text → Header.raisedBy? dialect text = none

/-- The unused imports of a source: none, if it cannot be read. -/
def unused (dialect : Dialect) (index : SymbolIndex) (source : Source) : List UnusedInstance :=
  match source.text with
  | .ok text =>
    let homes := (UnusedImport.check dialect index (String.ofList text)).toOption.getD []
    homes.map fun home => ⟨source.path, home⟩
  | .error _ => []

/-- What is warned of in a source: each unused import, or that it cannot be read. -/
def warnings (dialect : Dialect) (index : SymbolIndex) (source : Source) : List String :=
  match source.text with
  | .ok _ => (source.unused dialect index).map (·.text)
  | .error fault => ["Failed to read " ++ source.path ++ ": " ++ fault.message]

/-- What is noted of a source: lines of its header that were read by the plain rule, and then what
is warned of. -/
def journal (dialect : Dialect) (index : SymbolIndex) (source : Source) : Journal :=
  (match source.text with
    | .ok text => Header.journal (Header.imports dialect text)
    | .error _ => []) ++
  (source.warnings dialect index).map fun message => ⟨.warning, .analysis, some message, none⟩

end Source

namespace Header

/-- The plain rule is noted on no higher level than the lowest. -/
theorem atLeast_journal (found : List Import) : (journal found).atLeast .warning = [] := by
  simp only [Journal.atLeast, List.filter_eq_nil_iff, journal, List.mem_filterMap,
    Option.map_eq_some_iff]
  rintro entry ⟨found, -, line, -, rfl⟩
  simp [Level.rank]

theorem scan_eq_ok_iff {dialect : Dialect} {text : List Char} {found : List Import} :
    scan dialect text = .ok found ↔
      raisedBy? dialect text = none ∧ imports dialect text = found := by
  rw [scan_eq]
  cases raisedBy? dialect text <;> simp

end Header

theorem UnusedImport.check_of_sound {dialect : Dialect} {text : List Char}
    (h : Header.raisedBy? dialect text = none) (index : SymbolIndex) :
    check dialect index (String.ofList text) =
      .ok (find dialect index (String.ofList text)) := by
  rw [check, Header.scanNames_eq, String.toList_ofList, h]
  rfl

/-! ## One source -/

namespace Analysis

variable {σ : Type} {provider : Session σ SymbolIndex} {dialect : Dialect} (index : SymbolIndex)
  {s : σ} {source : Source}

theorem run_unusedIn {text : List Char} (h : Header.raisedBy? dialect text = none) (s : σ) :
    Session.run (unusedIn (pure index) dialect text) s =
      ⟨.ok (UnusedImport.find dialect index (String.ofList text)), s,
        Header.journal (Header.imports dialect text)⟩ := by
  have hfind : UnusedImport.find dialect index (String.ofList text) =
      UnusedImport.select index ((Identifier.all dialect text).map String.ofList)
        (Header.namesOf (Header.imports dialect text)) := by
    rw [UnusedImport.find, ← Header.namesOf_imports, Identifier.names, String.toList_ofList]
  have hscan : (Session.run (Session.ofExcept (Header.scan dialect text)) s).result =
      .ok (Header.imports dialect text) := by
    rw [Header.scan_eq_ok_iff.2 ⟨h, rfl⟩, Session.run_ofExcept]
  rw [hfind, unusedIn, Session.run_bind_of_ok hscan, Session.run_ofExcept,
    Session.run_bind_of_ok rfl]
  cases Header.namesOf (Header.imports dialect text) with
  | nil => simp [UnusedImport.select]
  | cons home homes => simp

theorem run_searchText {text : List Char} (h : Header.raisedBy? dialect text = none)
    (path : String) (s : σ) :
    Session.run (searchText (pure index) dialect path text) s =
      ⟨.ok ⟨(Source.mk path (.ok text)).unused dialect index, 1, []⟩, s,
        (Source.mk path (.ok text)).journal dialect index⟩ := by
  have hunused := run_unusedIn index h s
  rw [searchText, Session.run_bind_of_ok (congrArg Outcome.result hunused), hunused]
  simp [Source.journal, Source.warnings, Source.unused, Function.comp_def,
    UnusedImport.check_of_sound h, Except.toOption, Except.map]

/-- The report on one source. -/
def reportOn (dialect : Dialect) (source : Source) : AnalysisReport where
  instances := source.unused dialect index
  scanned := if source.isReadable then 1 else 0
  skipped := if source.isReadable then [] else [source.path]

theorem run_searchSource (h : source.IsIsolated) (hsearch : source.IsSearchable dialect) (s : σ) :
    Session.run (searchSource (pure index) dialect source) s =
      ⟨.ok (reportOn index dialect source), s, source.journal dialect index⟩ := by
  obtain ⟨path, text⟩ := source
  cases text with
  | ok text =>
    rw [searchSource, run_searchText index (hsearch.sound text rfl)]
    rfl
  | error fault =>
    obtain ⟨message, hsaid⟩ := hsearch.told fault rfl
    have hmessage := Fault.eq_message_of_said hsaid
    simp only [searchSource, h fault rfl, if_true, Fault.unreadableSource, hsaid, Except.map,
      hmessage]
    rfl

/-- Whatever gives the index, a search that ends well is one of a source that can be searched. -/
theorem isSearchable_of_searchSource {report : AnalysisReport} (h : source.IsIsolated)
    (hok : (Session.run (searchSource provider dialect source) s).result = .ok report) :
    source.IsSearchable dialect := by
  obtain ⟨path, text⟩ := source
  cases text with
  | ok text =>
    refine ⟨nofun, ?_⟩
    rintro _ ⟨⟩
    obtain ⟨_, hunused, -⟩ := Session.run_bind_eq_ok_iff.1 hok
    obtain ⟨found, hfound, -⟩ := Session.run_bind_eq_ok_iff.1 hunused
    cases hscan : Header.scan dialect text with
    | error fault =>
      rw [hscan] at hfound
      cases hfound
    | ok imports => exact (Header.scan_eq_ok_iff.1 hscan).1
  | error fault =>
    refine ⟨?_, nofun⟩
    rintro _ ⟨⟩
    simp only [searchSource, h fault rfl, if_true] at hok
    obtain ⟨unreadable, hunreadable, -⟩ := Session.run_bind_eq_ok_iff.1 hok
    cases hsaid : fault.said with
    | error other =>
      simp only [Fault.unreadableSource, hsaid, Except.map, Session.run_handling, Except.mapError]
        at hunreadable
      cases hunreadable
    | ok message => exact ⟨message, rfl⟩

/-! ## A batch -/

/-- The report on a batch. -/
def reportOnAll (dialect : Dialect) (sources : List Source) : AnalysisReport where
  instances := sources.flatMap (·.unused dialect index)
  scanned := sources.countP (·.isReadable)
  skipped := (sources.filter fun source => !source.isReadable).map (·.path)

theorem reportOnAll_cons (source : Source) (rest : List Source) :
    reportOnAll index dialect (source :: rest) =
      reportOn index dialect source ++ reportOnAll index dialect rest := by
  cases hreadable : source.isReadable <;>
    simp [reportOnAll, reportOn, AnalysisReport.append_def, hreadable, Nat.add_comm]

theorem reportOnAll_append (front back : List Source) :
    reportOnAll index dialect (front ++ back) =
      reportOnAll index dialect front ++ reportOnAll index dialect back := by
  simp [reportOnAll, AnalysisReport.append_def]

variable {index} {sources : List Source}

/-- The search in a batch gives the report on it, writes the journals of its sources in their order,
and ends where it started. -/
theorem run_search (h : ∀ source ∈ sources, source.IsIsolated)
    (hsearch : ∀ source ∈ sources, source.IsSearchable dialect) (s : σ) :
    Session.run (search (pure index) dialect (sources.map Sighting.source)) s =
      ⟨.ok (reportOnAll index dialect sources), s,
        sources.flatMap (·.journal dialect index)⟩ := by
  induction sources with
  | nil => rfl
  | cons source rest ih =>
    obtain ⟨hsource, hrest⟩ := List.forall_mem_cons.1 h
    obtain ⟨hsourceSearch, hrestSearch⟩ := List.forall_mem_cons.1 hsearch
    have hfirst := run_searchSource index hsource hsourceSearch s
    have hmore := ih hrest hrestSearch
    rw [List.map_cons, search, searchSighting,
      Session.run_bind_of_ok (congrArg Outcome.result hfirst), hfirst,
      Session.run_bind_of_ok (congrArg Outcome.result hmore), hmore, reportOnAll_cons]
    simp

theorem isSearchable_of_search {report : AnalysisReport} (h : ∀ source ∈ sources, source.IsIsolated)
    (hok : (Session.run (search provider dialect (sources.map Sighting.source)) s).result =
      .ok report) : ∀ source ∈ sources, source.IsSearchable dialect := by
  induction sources generalizing s report with
  | nil => nofun
  | cons source rest ih =>
    obtain ⟨hsource, hrest⟩ := List.forall_mem_cons.1 h
    obtain ⟨first, hfirst, hmore⟩ := Session.run_bind_eq_ok_iff.1 hok
    obtain ⟨more, hmore, -⟩ := Session.run_bind_eq_ok_iff.1 hmore
    exact List.forall_mem_cons.2 ⟨isSearchable_of_searchSource hsource hfirst, ih hrest hmore⟩

theorem atLeast_journal (source : Source) :
    (source.journal dialect index).atLeast .warning =
      (source.warnings dialect index).map
        fun message => ⟨.warning, .analysis, some message, none⟩ := by
  have hwarnings (messages : List String) :
      Journal.atLeast .warning
          (messages.map fun message => ⟨.warning, .analysis, some message, none⟩) =
        messages.map fun message => ⟨.warning, .analysis, some message, none⟩ := by
    simp [Journal.atLeast, Level.rank]
  rw [Source.journal, Journal.atLeast_append, hwarnings]
  cases source.text with
  | ok text => rw [Header.atLeast_journal, List.nil_append]
  | error fault => rfl

theorem atLeast_flatMap_journal (sources : List Source) :
    Journal.atLeast .warning (sources.flatMap (·.journal dialect index)) =
      (sources.flatMap (·.warnings dialect index)).map
        fun message => ⟨.warning, .analysis, some message, none⟩ := by
  induction sources with
  | nil => rfl
  | cons source rest ih =>
    rw [List.flatMap_cons, List.flatMap_cons, Journal.atLeast_append, ih, atLeast_journal,
      List.map_append]

theorem scanned_add_skipped (sources : List Source) :
    (reportOnAll index dialect sources).scanned +
      (reportOnAll index dialect sources).skipped.length = sources.length := by
  have hlength := List.length_eq_countP_add_countP Source.isReadable (l := sources)
  simpa [reportOnAll, ← List.countP_eq_length_filter] using hlength.symm

/-- What the search in a batch promises of its report and of what it writes. -/
structure IsSearched (dialect : Dialect) (index : SymbolIndex) (s : σ) (sources : List Source)
    (report : AnalysisReport) (journal : Journal) : Prop where
  /-- Every source is scanned or skipped. -/
  counted : report.scanned + report.skipped.length = sources.length
  /-- What is skipped are the sources that cannot be read, in order. -/
  skipped : report.skipped = (sources.filter fun source => !source.isReadable).map (·.path)
  /-- What is found is what is found in each source, in order. -/
  found : report.instances = sources.flatMap (·.unused dialect index)
  /-- In a source that can be read this is what the rule finds in the text, under the path of the
  source, and it is what the search in the one text finds. -/
  each : ∀ source ∈ sources, ∀ text, source.text = .ok text →
    ∃ homes, UnusedImport.check dialect index (String.ofList text) = .ok homes ∧
      source.unused dialect index = homes.map (fun home => ⟨source.path, home⟩) ∧
      (Session.run (searchText (pure index) dialect source.path text) s).result =
        .ok ⟨source.unused dialect index, 1, []⟩
  /-- One warning is written for each source that is skipped and each import that is found. -/
  warned : journal.atLeast .warning = (sources.flatMap (·.warnings dialect index)).map
    (fun message => ⟨.warning, .analysis, some message, none⟩)
  /-- The batch of two batches gives the one report and the one journal behind the other. -/
  split : ∀ front back, sources = front ++ back →
    ∃ first firstJournal more moreJournal,
      Session.run (search (pure index) dialect (front.map Sighting.source)) s =
          ⟨.ok first, s, firstJournal⟩ ∧
        Session.run (search (pure index) dialect (back.map Sighting.source)) s =
          ⟨.ok more, s, moreJournal⟩ ∧
        report = first ++ more ∧ journal = firstJournal ++ moreJournal
  /-- The verdict passes when nothing is found in any text. -/
  passes : report.verdict.passes = .ok true ↔ ∀ source ∈ sources, ∀ text,
    source.text = .ok text → UnusedImport.check dialect index (String.ofList text) = .ok []

theorem isSearched_reportOnAll (h : ∀ source ∈ sources, source.IsIsolated)
    (hsearch : ∀ source ∈ sources, source.IsSearchable dialect) (s : σ) :
    IsSearched dialect index s sources (reportOnAll index dialect sources)
      (sources.flatMap (·.journal dialect index)) := by
  have hcheck : ∀ source ∈ sources, ∀ text, source.text = .ok text →
      UnusedImport.check dialect index (String.ofList text) =
        .ok (UnusedImport.find dialect index (String.ofList text)) :=
    fun source hsource text htext =>
      UnusedImport.check_of_sound ((hsearch source hsource).sound text htext) index
  constructor
  case counted => exact scanned_add_skipped sources
  case skipped => rfl
  case found => rfl
  case each =>
    rintro ⟨path, -⟩ hsource text rfl
    have hfound := hcheck _ hsource text rfl
    refine ⟨_, hfound, ?_, ?_⟩
    · simp [Source.unused, hfound, Except.toOption]
    · rw [run_searchText index ((hsearch _ hsource).sound text rfl)]
  case warned => exact atLeast_flatMap_journal sources
  case split =>
    rintro front back rfl
    obtain ⟨hfront, hback⟩ := List.forall_mem_append.1 h
    obtain ⟨hfrontSearch, hbackSearch⟩ := List.forall_mem_append.1 hsearch
    exact ⟨_, _, _, _, run_search hfront hfrontSearch s, run_search hback hbackSearch s,
      reportOnAll_append index front back, List.flatMap_append⟩
  case passes =>
    rw [AnalysisReport.passes_verdict_iff]
    simp only [reportOnAll, List.flatMap_eq_nil_iff]
    refine forall₂_congr fun source hsource => ?_
    obtain ⟨path, text⟩ := source
    cases text with
    | error fault => simp [Source.unused]
    | ok text => simp [Source.unused, hcheck _ hsource text rfl, Except.toOption]

/-- The search in a batch, for an index that is there and sources that fail only in being read, ends
where it started, and keeps its promises, exactly when each source can be searched: each fault of
reading can be put into words, and no header raises. -/
theorem search_sources_iff (h : ∀ source ∈ sources, source.IsIsolated) (dialect : Dialect)
    (index : SymbolIndex) (s : σ) :
    (∃ report journal,
      Session.run (search (pure index) dialect (sources.map Sighting.source)) s =
          ⟨.ok report, s, journal⟩ ∧
        IsSearched dialect index s sources report journal) ↔
      ∀ source ∈ sources, source.IsSearchable dialect := by
  constructor
  · rintro ⟨report, journal, hrun, -⟩
    exact isSearchable_of_search h (congrArg Outcome.result hrun)
  · intro hsearch
    exact ⟨_, _, run_search h hsearch s, isSearched_reportOnAll h hsearch s⟩

theorem search_sources_unreadable :
    ∃ report,
      (Session.run (search
        (pure (SymbolIndex.ofRecords .standard [some { home := "A", name := "B" }])) .standard
        [.source ⟨"b.cs", .error (.withText "OSError" "gone")⟩,
          .source ⟨"a.cs", .ok "using A;\nC x;".toList⟩]) ()).result = .ok report ∧
      report.skipped = ["b.cs"] ∧ report.instances = [⟨"a.cs", "A"⟩] := by
  have h : ∀ source ∈ [Source.mk "b.cs" (.error (.withText "OSError" "gone")),
      ⟨"a.cs", .ok "using A;\nC x;".toList⟩], source.IsIsolated := by
    intro source hsource fault hfault
    simp only [List.mem_cons, List.not_mem_nil, or_false] at hsource
    rcases hsource with rfl | rfl
    · cases hfault
      decide +kernel
    · cases hfault
  have hsound : Dialect.standard.grammarFault? = none :=
    Dialect.grammarFault?_of_ordinary (by decide)
  have hsearch : ∀ source ∈ [Source.mk "b.cs" (.error (.withText "OSError" "gone")),
      ⟨"a.cs", .ok "using A;\nC x;".toList⟩], source.IsSearchable .standard := by
    intro source hsource
    simp only [List.mem_cons, List.not_mem_nil, or_false] at hsource
    rcases hsource with rfl | rfl
    · exact ⟨fun _ hfault => by cases hfault; exact ⟨_, rfl⟩, nofun⟩
    · exact ⟨nofun, fun _ _ => by rw [Header.raisedBy?, hsound, ite_self]⟩
  obtain ⟨report, journal, hrun, hreport⟩ := (search_sources_iff h .standard
    (.ofRecords .standard [some { home := "A", name := "B" }]) ()).2 hsearch
  have himported : Header.importedNames .standard "using A;\nC x;" = ["A"] :=
    congrArg (List.map String.ofList)
      (Header.pathsFrom_ofName ⟨false, 'A', [], by decide, by decide⟩ "C x;".toList)
  have hfind : UnusedImport.find .standard
      (.ofRecords .standard [some { home := "A", name := "B" }]) "using A;\nC x;" = ["A"] := by
    rw [UnusedImport.find, himported]
    decide +kernel
  have hcheck : UnusedImport.check .standard
      (.ofRecords .standard [some { home := "A", name := "B" }]) "using A;\nC x;" = .ok ["A"] := by
    rw [← hfind, UnusedImport.check, Header.scanNames_of_sound hsound]
    rfl
  refine ⟨report, congrArg Outcome.result hrun, hreport.skipped.trans rfl,
    hreport.found.trans ?_⟩
  simp [Source.unused, hcheck, Except.toOption]

/-- A source that fails with a fault of reading whose text is asked for in vain. -/
theorem search_sources_untold :
    ¬ ∀ (sources : List Source), (∀ source ∈ sources, source.IsIsolated) →
      ∃ report,
        (Session.run (search (pure (SymbolIndex.ofRecords .standard [])) .standard
          (sources.map Sighting.source)) ()).result = .ok report := by
  intro hall
  obtain ⟨report, hreport⟩ := hall
    [⟨"a.cs", .error (.untold "OSError" "OSError(ValidationError(5))"
      (.withText "TypeError" "__str__ returned non-string (type int)"))⟩] (by
        simp only [List.mem_singleton, forall_eq]
        rintro fault ⟨⟩
        decide +kernel)
  have hsearch := isSearchable_of_search (by
    simp only [List.mem_singleton, forall_eq]
    rintro fault ⟨⟩
    decide +kernel) hreport
  obtain ⟨message, hmessage⟩ := (hsearch _ (List.mem_singleton_self _)).told _ rfl
  cases hmessage

end Analysis

end Vetting
