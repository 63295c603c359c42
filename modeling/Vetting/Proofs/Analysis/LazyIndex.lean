import Vetting.Proofs.Analysis
import Vetting.Proofs.Session
import Vetting.Proofs.SymbolIndex.Cache

/-!
# Vetting.Proofs.Analysis.LazyIndex

The search in a batch over a cache. The cache is asked for its index at the first source with
imports, and not before; what it gives then it gives for the rest of the batch, so that the report
is the one of the search over that index.

* `Analysis.searchSource_of_idle`, `Analysis.ending_searchSource`: the search in one source asks for
  the index once, if the source has imports, and else not at all.
* `Analysis.ending_search_of_quiet`: a batch over an index that is there.
* `Analysis.ending_search_of_ok`, `Analysis.ending_search_of_error`: a batch with imports, over an
  index that stays once it was given or that cannot be given.
* `Analysis.search_get_iff`: the search over a cache counts and reports what it should exactly when
  its sources can be searched and an index that it has to build is built of modules that are told.
-/

namespace Vetting

/-- Whether a source can be read and has imports. -/
def Source.imports (dialect : Dialect) (source : Source) : Bool :=
  match source.text with
  | .ok text => (Header.scan dialect text).toOption.any fun found => !found.isEmpty
  | .error _ => false

theorem Source.imports_iff {dialect : Dialect} {source : Source} :
    source.imports dialect = true ↔
      ∃ text found, source.text = .ok text ∧ Header.scan dialect text = .ok found ∧
        found ≠ [] := by
  simp only [imports]
  cases source.text with
  | error fault => simp
  | ok text => cases hscan : Header.scan dialect text <;> simp [hscan, Except.toOption]

namespace Analysis

open Session

section

variable {σ : Type} {provider : Session σ SymbolIndex} {dialect : Dialect} {index : SymbolIndex}
  {s t : σ} {source : Source}

/-! ## One source -/

theorem searchSource_of_idle (index : SymbolIndex) (hidle : source.imports dialect = false) :
    searchSource provider dialect source = searchSource (pure index) dialect source := by
  simp only [searchSource]
  cases htext : source.text with
  | error fault => rfl
  | ok text =>
    have hunused : unusedIn provider dialect text = unusedIn (pure index) dialect text := by
      rw [unusedIn, unusedIn]
      cases hscan : Header.scan dialect text with
      | error fault => rfl
      | ok found =>
        obtain rfl : found = [] := by
          simpa [Source.imports, htext, hscan, Except.toOption] using hidle
        rfl
    simp only [searchText, hunused]

theorem ending_unusedIn {text : List Char} {found : List Header.Import}
    (hscan : Header.scan dialect text = .ok found) (hne : found ≠ [])
    (hgiven : ending provider s = (.ok index, t)) :
    ending (unusedIn provider dialect text) s =
      (.ok (UnusedImport.find dialect index (String.ofList text)), t) := by
  obtain ⟨hsound, rfl⟩ := Header.scan_eq_ok_iff.1 hscan
  have hfind : UnusedImport.find dialect index (String.ofList text) =
      UnusedImport.select index ((Identifier.all dialect text).map String.ofList)
        (Header.namesOf (Header.imports dialect text)) := by
    rw [UnusedImport.find, ← Header.namesOf_imports, Identifier.names, String.toList_ofList]
  rw [hfind, unusedIn, hscan, ending_bind_of_ok (ending_ofExcept _ s),
    ending_bind_of_ok (ending_write _ s)]
  obtain ⟨first, more, himports⟩ := List.exists_cons_of_ne_nil hne
  rw [himports]
  exact (ending_bind_of_ok hgiven).trans rfl

/-- The search in a source with imports asks for the index once. -/
theorem ending_searchSource (h : source.imports dialect = true)
    (hgiven : ending provider s = (.ok index, t)) :
    ending (searchSource provider dialect source) s =
      (.ok (reportOn index dialect source), t) := by
  obtain ⟨text, found, htext, hscan, hne⟩ := Source.imports_iff.1 h
  have hcheck := UnusedImport.check_of_sound (Header.scan_eq_ok_iff.1 hscan).1 index
  simp only [searchSource, searchText, htext]
  rw [ending_bind_of_ok (ending_unusedIn hscan hne hgiven)]
  simp only [reportOn, Source.unused, Source.isReadable, htext, hcheck]
  rfl

theorem ending_searchSource_of_error {fault : Fault} (h : source.imports dialect = true)
    (hgiven : ending provider s = (.error fault, t)) :
    ending (searchSource provider dialect source) s = (.error fault, t) := by
  obtain ⟨text, found, htext, hscan, hne⟩ := Source.imports_iff.1 h
  have hunused : ending (unusedIn provider dialect text) s = (.error fault, t) := by
    rw [unusedIn, hscan, ending_bind_of_ok (ending_ofExcept _ s),
      ending_bind_of_ok (ending_write _ s)]
    obtain ⟨first, more, rfl⟩ := List.exists_cons_of_ne_nil hne
    exact (ending_bind_of_error hgiven).trans rfl
  simp only [searchSource, searchText, htext]
  rw [ending_bind_of_error hunused]

theorem ending_searchSource_of_idle (index : SymbolIndex) (hidle : source.imports dialect = false)
    (hisolated : source.IsIsolated) (hsearch : source.IsSearchable dialect) :
    ending (searchSource provider dialect source) s = (.ok (reportOn index dialect source), s) := by
  rw [searchSource_of_idle index hidle, ending, run_searchSource index hisolated hsearch]

/-! ## A batch -/

theorem ending_search_cons_of_ok {first more : AnalysisReport} {rest : List Sighting} {last : σ}
    (hfirst : ending (searchSource provider dialect source) s = (.ok first, t))
    (hrest : ending (search provider dialect rest) t = (.ok more, last)) :
    ending (search provider dialect (.source source :: rest)) s = (.ok (first ++ more), last) := by
  rw [search, searchSighting, ending_bind_of_ok hfirst, ending_bind_of_ok hrest]
  rfl

variable {sources : List Source}

/-- A batch that ends where it started: asking for the index, if a source does, changes nothing.
Without imports the index can be any. -/
theorem ending_search_of_quiet (h : ∀ source ∈ sources, source.IsIsolated)
    (hsearch : ∀ source ∈ sources, source.IsSearchable dialect)
    (hquiet : sources.any (·.imports dialect) = true → ending provider s = (.ok index, s)) :
    ending (search provider dialect (sources.map .source)) s =
      (.ok (reportOnAll index dialect sources), s) := by
  induction sources with
  | nil => rfl
  | cons source rest ih =>
    rw [List.any_cons, Bool.or_eq_true] at hquiet
    obtain ⟨hsource, hrest⟩ := List.forall_mem_cons.1 h
    obtain ⟨hsourceSearch, hrestSearch⟩ := List.forall_mem_cons.1 hsearch
    have hfirst : ending (searchSource provider dialect source) s =
        (.ok (reportOn index dialect source), s) := by
      cases himports : source.imports dialect with
      | true => exact ending_searchSource himports (hquiet (.inl himports))
      | false => exact ending_searchSource_of_idle index himports hsource hsourceSearch
    rw [List.map_cons, reportOnAll_cons]
    exact ending_search_cons_of_ok hfirst (ih hrest hrestSearch fun hany => hquiet (.inr hany))

/-- A batch with imports. Its first source with imports asks for the index, and from there on the
index is there. -/
theorem ending_search_of_ok (h : ∀ source ∈ sources, source.IsIsolated)
    (hsearch : ∀ source ∈ sources, source.IsSearchable dialect)
    (hany : sources.any (·.imports dialect) = true)
    (hgiven : ending provider s = (.ok index, t)) (hstays : ending provider t = (.ok index, t)) :
    ending (search provider dialect (sources.map .source)) s =
      (.ok (reportOnAll index dialect sources), t) := by
  induction sources with
  | nil => cases hany
  | cons source rest ih =>
    obtain ⟨hsource, hrest⟩ := List.forall_mem_cons.1 h
    obtain ⟨hsourceSearch, hrestSearch⟩ := List.forall_mem_cons.1 hsearch
    rw [List.map_cons, reportOnAll_cons]
    cases himports : source.imports dialect with
    | true =>
      -- The index is there from here on: the induction hypothesis is about `s` and does not apply.
      exact ending_search_cons_of_ok (ending_searchSource himports hgiven)
        (ending_search_of_quiet hrest hrestSearch fun _ => hstays)
    | false =>
      rw [List.any_cons, himports, Bool.false_or] at hany
      exact ending_search_cons_of_ok
        (ending_searchSource_of_idle index himports hsource hsourceSearch)
        (ih hrest hrestSearch hany)

theorem ending_search_of_error {fault : Fault} (h : ∀ source ∈ sources, source.IsIsolated)
    (hsearch : ∀ source ∈ sources, source.IsSearchable dialect)
    (hany : sources.any (·.imports dialect) = true)
    (hfails : ending provider s = (.error fault, t)) :
    ending (search provider dialect (sources.map .source)) s = (.error fault, t) := by
  induction sources with
  | nil => cases hany
  | cons source rest ih =>
    obtain ⟨hsource, hrest⟩ := List.forall_mem_cons.1 h
    obtain ⟨hsourceSearch, hrestSearch⟩ := List.forall_mem_cons.1 hsearch
    rw [List.map_cons, search, searchSighting]
    cases himports : source.imports dialect with
    | true => rw [ending_bind_of_error (ending_searchSource_of_error himports hfails)]
    | false =>
      rw [List.any_cons, himports, Bool.false_or] at hany
      -- What the source gives before the index is asked for does not matter: here it is taken over
      -- the index of no records.
      rw [ending_bind_of_ok (ending_searchSource_of_idle (.ofRecords dialect []) himports hsource
          hsourceSearch),
        ending_bind_of_error (ih hrest hrestSearch hany)]

end

/-! ## Over a cache -/

variable {tree : FileTree} {dialect : Dialect} {cache : IndexCache} {index : SymbolIndex}
  {sources : List Source}

theorem ending_get {result : Except Fault SymbolIndex} (h : (cache.get tree).result = result) :
    ending (IndexCache.get tree) cache = (result, (cache.get tree).state) := Prod.ext h rfl

/-- A cache that gives an index keeps giving it. -/
theorem ending_get_state (h : (cache.get tree).result = .ok index) :
    ending (IndexCache.get tree) (cache.get tree).state = (.ok index, (cache.get tree).state) := by
  rw [ending, run, IndexCache.get_of_built (IndexCache.get_of_ok h).1]

/-- The search over a cache that gives an index, where it has to give one. -/
theorem ending_search_get (h : ∀ source ∈ sources, source.IsIsolated)
    (hsearch : ∀ source ∈ sources, source.IsSearchable dialect)
    (hgiven : sources.any (·.imports dialect) = true → (cache.get tree).result = .ok index) :
    ending (search (IndexCache.get tree) dialect (sources.map .source)) cache =
      (.ok (reportOnAll index dialect sources),
        if sources.any (·.imports dialect) then (cache.get tree).state else cache) := by
  cases hany : sources.any (·.imports dialect) with
  | true =>
    have hindex := hgiven hany
    exact ending_search_of_ok h hsearch hany (ending_get hindex) (ending_get_state hindex)
  | false =>
    exact ending_search_of_quiet h hsearch fun hsome => absurd (hany.symm.trans hsome) nofun

/-- The search over a cache builds the index lazily, at most once, and reports what the search over
the index reports that the cache would give: exactly when each source can be searched, and an index
that it has to build, because a source has imports, is built of modules that are told. -/
theorem search_get_iff (tree : FileTree) (dialect : Dialect) (cache : IndexCache)
    (sources : List Source) (h : ∀ source ∈ sources, source.IsIsolated) :
    (∃ report left,
        ending (search (IndexCache.get tree) dialect (sources.map .source)) cache =
            (.ok report, left) ∧
          left.buildCount = cache.buildCount +
            (if !cache.isBuilt && sources.any (·.imports dialect) then 1 else 0) ∧
          ∀ index, (cache.get tree).result = .ok index →
            ending (search (pure index) dialect (sources.map .source)) () = (.ok report, ())) ↔
      (∀ source ∈ sources, source.IsSearchable dialect) ∧
        (cache.isBuilt = false → sources.any (·.imports dialect) = true →
          ∀ m ∈ cache.modules, m.IsTold) := by
  constructor
  · rintro ⟨report, left, hends, -⟩
    have hsearch := isSearchable_of_search h (congrArg Prod.fst hends)
    refine ⟨hsearch, fun hunbuilt hany => ?_⟩
    refine (IndexCache.exists_get_iff tree).1 ?_ hunbuilt
    cases hget : (cache.get tree).result with
    | ok index => exact ⟨index, rfl⟩
    | error fault =>
      cases hends.symm.trans (ending_search_of_error h hsearch hany (ending_get hget))
  · rintro ⟨hsearch, htold⟩
    -- Without imports no index is asked for, and the one of no records will do as well.
    obtain ⟨index, hindex⟩ : ∃ index,
        sources.any (·.imports dialect) = true → (cache.get tree).result = .ok index := by
      cases hany : sources.any (·.imports dialect) with
      | true =>
        obtain ⟨index, hindex⟩ := (IndexCache.exists_get_iff tree).2 fun hunbuilt =>
          htold hunbuilt hany
        exact ⟨index, fun _ => hindex⟩
      | false => exact ⟨.ofRecords dialect [], nofun⟩
    refine ⟨_, _, ending_search_get h hsearch hindex, ?_, ?_⟩
    · cases hany : sources.any (·.imports dialect) with
      | true =>
        refine (IndexCache.get_of_ok (hindex hany)).2.trans ?_
        cases cache.isBuilt <;> rfl
      | false => simp
    · intro other hother
      have hreport := congrArg Prod.fst ((ending_search_get h hsearch fun _ => hother).symm.trans
        (ending_search_get h hsearch hindex))
      rw [ending, run_search h hsearch]
      exact Prod.ext hreport rfl

/-- A source that imports one namespace. -/
def oneImport : Source := ⟨"a.cs", .ok "using A;\n".toList⟩

theorem imports_oneImport : oneImport.imports .standard = true := by
  have hnamespaces : Header.namespaces .standard "using A;\n".toList = [['A']] :=
    Header.pathsFrom_ofName ⟨false, 'A', [], by decide, by decide⟩ []
  have hscan : Header.scan .standard "using A;\n".toList =
      .ok (Header.imports .standard "using A;\n".toList) := by
    rw [Header.scan, Header.imports,
      Header.scanLines_of_sound (Dialect.grammarFault?_of_ordinary (by decide))]
  refine Source.imports_iff.2 ⟨_, _, rfl, hscan, fun hnone => ?_⟩
  rw [Header.namespaces, hnone] at hnamespaces
  cases hnamespaces

theorem isIsolated_oneImport : oneImport.IsIsolated := nofun

theorem isSearchable_oneImport : oneImport.IsSearchable .standard where
  told := nofun
  sound := fun _ _ => by
    rw [Header.raisedBy?, Dialect.grammarFault?_of_ordinary (by decide), ite_self]

theorem search_get_skipping :
    (∀ source ∈ [Source.mk "b.cs" (.error (.withText "OSError" "gone")), oneImport],
        source.IsIsolated) ∧
      ∃ report left,
        ending (search (IndexCache.get ⟨[], []⟩) .standard
            [.source ⟨"b.cs", .error (.withText "OSError" "gone")⟩, .source oneImport])
          { modules := [.failing "m" (.withText "OSError" "lost")] } = (.ok report, left) ∧
        left.buildCount = 1 := by
  have h : ∀ source ∈ [Source.mk "b.cs" (.error (.withText "OSError" "gone")), oneImport],
      source.IsIsolated := by
    intro source hsource
    simp only [List.mem_cons, List.not_mem_nil, or_false] at hsource
    rcases hsource with rfl | rfl
    · rintro fault ⟨⟩
      decide +kernel
    · exact isIsolated_oneImport
  have hsearch : ∀ source ∈ [Source.mk "b.cs" (.error (.withText "OSError" "gone")), oneImport],
      source.IsSearchable .standard := by
    intro source hsource
    simp only [List.mem_cons, List.not_mem_nil, or_false] at hsource
    rcases hsource with rfl | rfl
    · exact ⟨fun _ hfault => by cases hfault; exact ⟨_, rfl⟩, nofun⟩
    · exact isSearchable_oneImport
  have htold : (MetadataModule.failing "m" (.withText "OSError" "lost")).IsTold := by
    rintro name fault ⟨⟩
    exact ⟨by decide +kernel, _, rfl⟩
  obtain ⟨report, left, hends, hcount, -⟩ :=
    (search_get_iff ⟨[], []⟩ .standard
      { modules := [.failing "m" (.withText "OSError" "lost")] } _ h).2
      ⟨hsearch, fun _ _ => List.forall_mem_singleton.2 htold⟩
  refine ⟨h, report, left, hends, hcount.trans ?_⟩
  simp [imports_oneImport, IndexCache.isBuilt]

/-- A module fails with a number for its message, and the index is asked for. -/
theorem search_get_speechless :
    ¬ ∃ report left,
      ending (search (IndexCache.get ⟨[], []⟩) .standard [.source oneImport])
        { modules := [.failing "m" (.speechless .validation (.int 5))] } = (.ok report, left) := by
  rintro ⟨report, left, hends⟩
  have hany : [oneImport].any (·.imports .standard) = true := by simp [imports_oneImport]
  cases hends.symm.trans (ending_search_of_error
    (List.forall_mem_singleton.2 isIsolated_oneImport)
    (List.forall_mem_singleton.2 isSearchable_oneImport) hany (ending_get rfl))

end Analysis

end Vetting
