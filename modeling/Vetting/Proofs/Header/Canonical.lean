import Vetting.Proofs.Directive.Taken
import Vetting.Proofs.Header.RoundTrip

/-!
# Vetting.Proofs.Header.Canonical

The form of what a header imports. The grammar drops all white space of a namespace and then the
qualifier of the root namespace. The plain rule trims first and drops the qualifier after that, so
white space behind a qualifier comes to the front and stays.

* `Directive.isCanonical_of_parse?`: what the grammar reads is canonical.
* `isCanonical_iff_of_readPlain`: what the plain rule reads is canonical but for that white space.
* `importedNames_canonical_iff`: so are the imports of a text.
-/

namespace Vetting

open Text

/-! ## Trimmed texts -/

namespace Text

theorem isSpace_head_trim (text : List Char) : ∀ c ∈ (trim text).head?, isSpace c = false := by
  intro c hc
  obtain ⟨rest, hrest⟩ := trimEnd_prefix_self (trimStart text)
  have hhead : (trimStart text).head? = some c := by
    rw [← hrest, List.head?_append, show trimEnd (trimStart text) = trim text from rfl,
      Option.mem_def.1 hc]
    rfl
  have hnot := List.head?_dropWhile_not isSpace text
  rw [show (text.dropWhile isSpace).head? = some c from hhead] at hnot
  simpa using hnot

theorem isSpace_getLast_trim (text : List Char) :
    ∀ c ∈ (trim text).getLast?, isSpace c = false := by
  intro c hc
  rw [trim, trimEnd, List.getLast?_reverse] at hc
  have hnot := List.head?_dropWhile_not isSpace (trimStart text).reverse
  rw [Option.mem_def.1 hc] at hnot
  simpa using hnot

theorem not_mem_trim {c : Char} {text : List Char} (h : c ∉ text) : c ∉ trim text :=
  fun hc => h ((trim_infix_self text).subset hc)

end Text

theorem Dialect.unqualified_cases (dialect : Dialect) (name : List Char) :
    dialect.unqualified name = name ∨
      name = dialect.rootQualifier.toList ++ dialect.unqualified name := by
  rw [unqualified]
  cases hafter : after? dialect.rootQualifier.toList name with
  | none => exact .inl rfl
  | some rest => exact .inr (after?_eq_some_iff.1 hafter)

theorem Dialect.unqualified_suffix (dialect : Dialect) (name : List Char) :
    dialect.unqualified name <:+ name := by
  rcases dialect.unqualified_cases name with h | h
  · exact ⟨[], h⟩
  · exact ⟨_, h.symm⟩

/-! ## Canonical namespaces -/

/-- What holds of every imported namespace: there is one, no white space stands at its end, and
neither sign of a directive in it. -/
structure IsTidy (path : List Char) : Prop where
  ne_nil : path ≠ []
  isSpace_last : ∀ c ∈ path.getLast?, isSpace c = false
  no_semicolon : ';' ∉ path
  no_equals : '=' ∉ path

/-- A namespace as an index may hold it: no white space stands at its start either. -/
structure IsCanonical (path : List Char) : Prop extends IsTidy path where
  isSpace_head : ∀ c ∈ path.head?, isSpace c = false

namespace SpacedPath

theorem isCanonical_dotted (path : SpacedPath) : IsCanonical path.dotted := by
  have hmem : ∀ c ∈ path.dotted, c ∈ path.written ∧ isSpace c = false := by
    intro c hc
    rw [← path.filter_written, List.mem_filter] at hc
    exact ⟨hc.1, by simpa using hc.2⟩
  have hsign : ∀ sign ∈ [';', '=', ':'], sign ∉ path.dotted := by
    intro sign hsign hc
    exact (IsDotted.written path).sign_not_mem hsign (hmem sign hc).1
  refine ⟨⟨?_, ?_, hsign _ (by simp), hsign _ (by simp)⟩, ?_⟩
  · simp [dotted, Name.text]
  · intro c hc
    exact (hmem c (List.mem_of_getLast? hc)).2
  · intro c hc
    exact (hmem c (List.mem_of_head? hc)).2

end SpacedPath

theorem Directive.isCanonical_of_parse? {line : List Char} {directive : Directive}
    (h : parse? .standard line = some directive) : IsCanonical directive.path := by
  have hread : read? (.withKeywords Dialect.standard.importKeywords) line = some (directive, []) :=
    Directive.parse?_eq_some_iff.1 h
  obtain ⟨written, -, rfl⟩ := WrittenDirective.exists_of_read? hread
  exact written.target.path.isCanonical_dotted

namespace Header

variable {dialect : Dialect} {body path : List Char} {isPlain : Bool}

/-- What the plain rule takes for the namespace: the text before the first semicolon. -/
def plainPath (body : List Char) : List Char := (trimStart body).takeWhile (· != ';')

theorem semicolon_not_mem_plainPath (body : List Char) : ';' ∉ plainPath body := by
  intro h
  have hne := List.all_eq_true.1 List.all_takeWhile _ h
  simp at hne

theorem plainPath_prefix_trimStart (body : List Char) : plainPath body <+: trimStart body :=
  List.takeWhile_prefix _

/-- The text before the semicolon starts where the white space behind the keyword ends. -/
theorem trimStart_plainPath (body : List Char) : trimStart (plainPath body) = plainPath body := by
  cases hpath : plainPath body with
  | nil => rfl
  | cons c rest =>
    obtain ⟨tail, htail⟩ := plainPath_prefix_trimStart body
    have hnot := List.head?_dropWhile_not isSpace body
    rw [show body.dropWhile isSpace = plainPath body ++ tail from htail.symm, hpath] at hnot
    exact trimStart_cons (by simpa using hnot) rest

theorem readPlain_eq_imported (h : readPlain dialect body = .imported path isPlain) :
    isPlain = true ∧ path ≠ [] ∧ '=' ∉ plainPath body ∧
      dialect.unqualified (trim (plainPath body)) = path := by
  simp only [readPlain] at h
  split at h
  · cases h
  split at h
  · cases h
  split at h
  · cases h
  next hequals =>
    split at h
    · cases h
    · next c rest hpath =>
      cases h
      exact ⟨rfl, List.cons_ne_nil c rest, by simpa [plainPath] using hequals, hpath⟩

theorem isTidy_of_readPlain (h : readPlain dialect body = .imported path isPlain) :
    IsTidy path := by
  obtain ⟨-, hne, hequals, hpath⟩ := readPlain_eq_imported h
  obtain ⟨front, hfront⟩ := dialect.unqualified_suffix (trim (plainPath body))
  rw [hpath] at hfront
  have hnot : ∀ c, c ∉ plainPath body → c ∉ path := by
    intro c hc hmem
    refine not_mem_trim hc ?_
    rw [← hfront]
    exact List.mem_append_right front hmem
  refine ⟨hne, ?_, hnot _ (semicolon_not_mem_plainPath body), hnot _ hequals⟩
  intro c hc
  refine isSpace_getLast_trim (plainPath body) c ?_
  rw [← hfront, List.getLast?_append_of_ne_nil front hne]
  exact hc

/-- A text that opens, white space aside, with the qualifier of the root namespace and white space
behind it. -/
def OpensSpaced (body : List Char) : Prop :=
  ∃ c rest, trimStart body = Dialect.standard.rootQualifier.toList ++ c :: rest ∧ isSpace c = true

/-- The qualifier stays where white space is trimmed behind it. -/
theorem trimEnd_qualifier (text : List Char) :
    trimEnd (Dialect.standard.rootQualifier.toList ++ text) =
      Dialect.standard.rootQualifier.toList ++ trimEnd text :=
  trimEnd_append_cons (c := ':') (by decide) "global:".toList text

theorem plainPath_of_opensSpaced {c : Char} {rest : List Char} (hc : isSpace c = true)
    (hbody : trimStart body = Dialect.standard.rootQualifier.toList ++ c :: rest) :
    ∃ more, plainPath body = Dialect.standard.rootQualifier.toList ++ c :: more := by
  have hqualifier : ∀ d ∈ Dialect.standard.rootQualifier.toList, (d != ';') = true :=
    List.all_eq_true.1 (by decide)
  have hsign : (c != ';') = true := by
    rw [bne_iff_ne]
    rintro rfl
    exact absurd hc (by decide)
  refine ⟨rest.takeWhile (· != ';'), ?_⟩
  rw [plainPath, hbody, List.takeWhile_append_of_pos hqualifier]
  exact congrArg _ (List.takeWhile_cons_of_pos hsign)

/-- The one way for white space to come to the front of a namespace. -/
theorem isCanonical_iff_of_readPlain (h : readPlain .standard body = .imported path isPlain) :
    IsCanonical path ↔ ¬ OpensSpaced body := by
  have htidy := isTidy_of_readPlain h
  obtain ⟨-, -, -, hpath⟩ := readPlain_eq_imported h
  constructor
  · rintro hcanonical ⟨c, rest, hbody, hc⟩
    obtain ⟨more, hplain⟩ := plainPath_of_opensSpaced hc hbody
    rw [trim, trimStart_plainPath, hplain, trimEnd_qualifier,
      Dialect.unqualified_qualifier_append] at hpath
    -- What is left of the white space is not empty, so it starts with the same character.
    obtain ⟨tail, htail⟩ := trimEnd_prefix_self (c :: more)
    rw [hpath] at htail
    obtain ⟨d, path, rfl⟩ := List.exists_cons_of_ne_nil htidy.ne_nil
    obtain rfl : d = c := (List.cons.inj htail).1
    have hd := hcanonical.isSpace_head d rfl
    rw [hc] at hd
    cases hd
  · intro hopens
    refine ⟨htidy, ?_⟩
    intro c hc
    rw [Bool.eq_false_iff]
    intro hspace
    have hhead := isSpace_head_trim (plainPath body)
    rcases Dialect.standard.unqualified_cases (trim (plainPath body)) with hsame | hqualified
    · rw [← hsame, hpath] at hhead
      rw [hhead c hc] at hspace
      cases hspace
    · rw [hpath, trim, trimStart_plainPath] at hqualified
      obtain ⟨rest, rfl⟩ := List.head?_eq_some_iff.1 (Option.mem_def.1 hc)
      obtain ⟨tail, htail⟩ :=
        (trimEnd_prefix_self (plainPath body)).trans (plainPath_prefix_trimStart body)
      rw [hqualified, List.append_assoc, List.cons_append] at htail
      exact hopens ⟨c, rest ++ tail, htail.symm, hspace⟩

/-! ## The imports of a text -/

/-- An import comes from a line that says so. -/
theorem exists_line_of_mem_importsOf {isOpen : Open} {raws : List (List Char)} {found : Import}
    (h : found ∈ importsOf dialect isOpen raws) :
    ∃ line isPlain, readLine dialect line = .imported found.path isPlain ∧
      found.plainLine? = if isPlain then some line else none := by
  induction raws generalizing isOpen with
  | nil => cases h
  | cons raw more ih =>
    rw [importsOf] at h
    split at h
    · exact ih h
    · next line _ =>
      split at h
      · exact ih h
      · cases h
      · next path isPlain hread =>
        rcases List.mem_cons.1 h with rfl | h
        · exact ⟨line, isPlain, hread, rfl⟩
        · exact ih h

/-- A line that imports a namespace is read by the grammar or by the plain rule. -/
theorem readLine_eq_imported {line : List Char}
    (h : readLine dialect line = .imported path isPlain) :
    (isPlain = false ∧ ∃ directive, Directive.parse? dialect line = some directive ∧
        directive.path = path) ∨
      isPlain = true ∧ ∃ body, afterKeyword? dialect.importKeywords line = some body ∧
        readPlain dialect body = .imported path isPlain := by
  rw [readLine] at h
  split at h
  · cases h
  split at h
  · cases h
  next body hbody =>
    split at h
    · next directive hparse =>
      rw [readDirective] at h
      split at h
      · cases h
        exact .inl ⟨rfl, directive, hparse, rfl⟩
      · cases h
    · exact .inr ⟨(readPlain_eq_imported h).1, body, hbody, h⟩

/-- A line that goes on, behind its keyword, with the qualifier of the root namespace and white
space. -/
def HasSpacedQualifier (line : List Char) : Prop :=
  ∃ body, afterKeyword? Dialect.standard.importKeywords line = some body ∧ OpensSpaced body

theorem isTidy_of_mem_imports {text : List Char} {found : Import}
    (h : found ∈ imports .standard text) : IsTidy found.path := by
  obtain ⟨line, isPlain, hread, -⟩ := exists_line_of_mem_importsOf h
  rcases readLine_eq_imported hread with ⟨-, directive, hparse, hpath⟩ | ⟨-, body, -, hplain⟩
  · rw [← hpath]
    exact (Directive.isCanonical_of_parse? hparse).toIsTidy
  · exact isTidy_of_readPlain hplain

theorem isCanonical_iff_of_mem_imports {text : List Char} {found : Import}
    (h : found ∈ imports .standard text) :
    IsCanonical found.path ↔ ∀ line ∈ found.plainLine?, ¬ HasSpacedQualifier line := by
  obtain ⟨line, isPlain, hread, hline⟩ := exists_line_of_mem_importsOf h
  rcases readLine_eq_imported hread with
    ⟨rfl, directive, hparse, hpath⟩ | ⟨rfl, body, hbody, hplain⟩
  · have hcanonical := Directive.isCanonical_of_parse? hparse
    rw [hpath] at hcanonical
    simp [hline, hcanonical]
  · rw [isCanonical_iff_of_readPlain hplain, hline]
    simp [HasSpacedQualifier, hbody]

/-- What a text imports is never empty, ends with no white space and holds no semicolon and no
equals sign. It does not start with white space either, exactly where no line that the plain rule
reads has white space behind a qualifier of the root namespace. -/
theorem importedNames_canonical_iff (text : String) :
    (∀ name ∈ importedNames .standard text, IsTidy name.toList) ∧
      ((∀ name ∈ importedNames .standard text, IsCanonical name.toList) ↔
        ∀ found ∈ imports .standard text.toList, ∀ line ∈ found.plainLine?,
          ¬ HasSpacedQualifier line) := by
  have hnames : ∀ P : List Char → Prop, (∀ name ∈ importedNames .standard text, P name.toList) ↔
      ∀ found ∈ imports .standard text.toList, P found.path := by
    intro P
    simp [importedNames, namespaces]
  rw [hnames, hnames]
  constructor
  · intro found hfound
    exact isTidy_of_mem_imports hfound
  · exact forall₂_congr fun found hfound => isCanonical_iff_of_mem_imports hfound

/-- The grammar asks for a name right behind the qualifier. -/
theorem readLine_spacedQualifier :
    readLine .standard "using global:: A;".toList = .imported " A".toList true := by
  have hword : "using" ∈ Dialect.standard.importKeywords := by decide
  have hgap : (⟨[' '], rfl⟩ : Gap).text ≠ [] := List.cons_ne_nil _ _
  have hhead : ∀ c ∈ "global:: A;".toList.head?, isBlank c = false := by
    intro c hc
    obtain rfl : 'g' = c := Option.some.inj hc
    decide
  have hclause : Dialect.standard.staticClause "global:: A;".toList = none := by decide
  have htail : Directive.readTail? .standard (Grammar.maybeMarkedName '@') "using".toList false
      "global:: A;".toList = none := by decide
  have hparse : Directive.parse? .standard "using global:: A;".toList = none := by
    rw [Option.eq_none_iff_forall_ne_some]
    intro directive hdirective
    rw [Directive.parse?_eq_some_iff] at hdirective
    have hread := Directive.read?_append hword hgap hhead
    rw [hclause, Option.elim_none, htail] at hread
    cases hread.symm.trans hdirective
  have hline := readLine_keyword hword hgap "global:: A;".toList
  refine hline.trans ?_
  rw [show "using".toList ++ ((⟨[' '], rfl⟩ : Gap).text ++ "global:: A;".toList) =
    "using global:: A;".toList from rfl, hparse]
  decide

theorem importedNames_not_canonical :
    ¬ ∀ text : String, ∀ name ∈ importedNames .standard text, IsCanonical name.toList := by
  intro h
  have hline : uncomment false (trim "using global:: A;".toList) =
      (false, some "using global:: A;".toList) := by decide
  have hpaths : pathsFrom false "using global:: A;\n".toList = [" A".toList] :=
    (pathsFrom_eq rfl).trans (pathsOf_imported hline readLine_spacedQualifier)
  have hnames := importedNames_ofList "using global:: A;\n".toList
  rw [hpaths, String.ofList_toList] at hnames
  have hcanonical := h "using global:: A;\n" " A" (by rw [hnames]; decide)
  exact absurd (hcanonical.isSpace_head ' ' rfl) (by decide)

end Header

end Vetting
