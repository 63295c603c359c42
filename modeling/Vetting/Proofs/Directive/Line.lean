import Vetting.Header
import Vetting.Proofs.Directive.Written

/-!
# Vetting.Proofs.Directive.Line

What the standard dialect reads in a line that opens with an import keyword: a namespace in a plain
import, nothing in an import of members or in an alias.

* `readLine_plain`: the line of a plain import gives the canonical form of its path.
* `readLine_static`: a line on which the word `static` follows the keyword is passed over.
* `readLine_alias`: so is a line on which a name and an equals sign follow it.
-/

namespace Vetting

open Grammar Text

theorem eq_of_mem_importKeywords {word : String}
    (h : word ∈ Dialect.standard.importKeywords) : word = "using" ∨ word = "import" := by
  simpa [Dialect.standard] using h

theorem isBlank_importKeywords :
    ∀ word ∈ Dialect.standard.importKeywords, ∀ c ∈ word.toList, isBlank c = false := by
  simp [Dialect.standard, isBlank]

namespace Name

theorem semicolon_not_mem (name : Name) : ';' ∉ name.text := by
  intro h
  rcases eq_or_isWord_of_mem h with h | h
  · exact absurd h (by decide)
  · exact absurd h (by decide)

end Name

namespace Directive

theorem parse?_eq_some_iff {line : List Char} {directive : Directive} :
    parse? .standard line = some directive ↔ read? .standard line = some (directive, []) :=
  have hstandard : Dialect.standard = .withKeywords Dialect.standard.importKeywords := rfl
  ⟨fun h => read?_of_parse? (hstandard ▸ h), parse?_of_read? (by decide)⟩

/-- What stands after the keyword and a gap is read behind the static clause, or without it. -/
theorem read?_append {word : String} (hword : word ∈ Dialect.standard.importKeywords) {gap : Gap}
    (hgap : gap.text ≠ []) {text : List Char} (htext : ∀ c ∈ text.head?, isBlank c = false) :
    read? .standard (word.toList ++ (gap.text ++ text)) =
      (Dialect.standard.staticClause text).elim
        (readTail? .standard (maybeMarkedName '@') word.toList false text)
        (readTail? .standard (maybeMarkedName '@') word.toList true) :=
  read?_withKeywords isBlank_importKeywords hword gap.toBlanks hgap htext

/-- Without white space after it, the word `static` is a name, and no semicolon follows it. -/
theorem readTail?_static (keyword : List Char) :
    readTail? .standard (maybeMarkedName '@') keyword false "static".toList = none := by
  have halias : aliasClause (maybeMarkedName '@') "static".toList = none := by decide
  have hpath : Dialect.standard.namespacePath (maybeMarkedName '@') "static".toList = some [] := by
    have hqualifier : Dialect.standard.qualifier "static".toList = none := by decide
    have hname : maybeMarkedName '@' "static".toList = some [] := by decide
    have hmore : many (dotName (maybeMarkedName '@')) [] = [] := by
      rw [many.eq_def]
      rfl
    rw [Dialect.namespacePath, hqualifier, Option.getD_none, qualified, hname, Option.map_some,
      hmore]
  have hclosing : closing [] = none := rfl
  simp only [readTail?, halias, Option.getD_none, hpath, hclosing, Option.bind_eq_bind,
    Option.bind_some, Option.bind_none]

/-- A directive is static where the clause stands, and introduces a name where that clause does. -/
theorem isNamespaceImport_of_readTail? {name : Rule} {keyword text rest : List Char}
    {isStatic : Bool} {directive : Directive}
    (h : readTail? .standard name keyword isStatic text = some (directive, rest)) :
    directive.isNamespaceImport = (!isStatic && (aliasClause name text).isNone) := by
  simp only [readTail?, Option.bind_eq_bind, Option.bind_eq_some_iff] at h
  obtain ⟨afterPath, -, rest, -, hdirective⟩ := h
  obtain ⟨rfl, -⟩ := Prod.mk.inj (Option.some.inj hdirective)
  simp only [isNamespaceImport]
  cases halias : aliasClause name text with
  | none => rfl
  | some tail =>
    obtain ⟨afterName, hname, -⟩ := Option.bind_eq_some_iff.1 halias
    simp [hname]

end Directive

namespace DottedPath

variable (path : DottedPath) (closing : Gap) (rest : List Char)

/-- A path in which `static` and white space come first is taken for an import of members. -/
def IsStaticLike (path : DottedPath) (closing : Gap) : Prop :=
  path.first.text = "static".toList ∧ (path.behindFirst closing).text ≠ []

theorem staticClause_written (h : ¬ path.IsStaticLike closing) :
    Dialect.standard.staticClause (path.written ++ (closing.text ++ ';' :: rest)) = none := by
  rw [Dialect.staticClause, Option.bind_eq_none_iff]
  intro tail hafter
  rw [after?_eq_some_iff, written, List.append_assoc] at hafter
  rcases Name.eq_or_exists_of_append_eq (path.endsWord_behindFirst closing rest) (by decide) hafter
    with ⟨hfirst, htail⟩ | ⟨c, hc, more, htail⟩
  · obtain ⟨c, more, hcons, hsign⟩ := path.exists_behindFirst closing rest
    have hempty : (path.behindFirst closing).text = [] :=
      Classical.not_not.1 fun hne => h ⟨hfirst, hne⟩
    rw [← htail, hcons, hempty, List.nil_append, blanks, if_neg]
    rcases hsign with rfl | rfl <;> decide
  · rw [htail, blanks, if_neg]
    simp [isBlank_of_isSpace (Name.isSpace_of_mem hc)]

def noGap : Gap := ⟨[], rfl⟩

/-- What a plain import says behind its keyword. -/
def writtenPlain (path : DottedPath) (isQualified : Bool) (closing : Gap) (rest : List Char) :
    List Char :=
  qualifierText isQualified ++ (path.written ++ (closing.text ++ ';' :: rest))

variable {isQualified : Bool}

theorem staticClause_writtenPlain (h : isQualified = true ∨ ¬ path.IsStaticLike closing) :
    Dialect.standard.staticClause (path.writtenPlain isQualified closing rest) = none := by
  cases isQualified with
  | true => rfl
  | false => exact path.staticClause_written closing rest (h.resolve_left Bool.false_ne_true)

theorem oneLine_writtenPlain (h : OneLine rest) :
    OneLine (path.writtenPlain isQualified closing rest) := by
  have hqualifier : OneLine (qualifierText isQualified) := by
    cases isQualified <;> decide
  have hsemicolon : isLineBreak ';' = false := by decide
  simp [writtenPlain, hqualifier, path.oneLine_written, closing.oneLine, h, hsemicolon]

/-- The grammar reads a plain import: no static clause, no alias, the path, and the semicolon. -/
theorem readTail?_writtenPlain (keyword : List Char) (hrest : '\n' ∉ rest) :
    Directive.readTail? .standard (maybeMarkedName '@') keyword false
        (path.writtenPlain isQualified closing rest) =
      some (⟨keyword, path.dotted, false, none⟩, []) := by
  have hline : rest.all (· != '\n') = true := by
    rw [List.all_eq_true]
    intro c hc
    rw [bne_iff_ne]
    rintro rfl
    exact hrest hc
  let target : ImportTarget :=
    ⟨none, isQualified, path.toSpaced, closing.toBlanks, ⟨rest, hline⟩⟩
  have hread := target.readTail?_text keyword false
  have htext : target.text = path.writtenPlain isQualified closing rest := by
    rw [target.text_of_none rfl, ImportTarget.plain, written_toSpaced]
    rfl
  rwa [htext, ImportTarget.directive, dotted_toSpaced] at hread

end DottedPath

namespace Header

variable {word : String} {gap : Gap}

theorem uncomment_keyword (hword : word ∈ Dialect.standard.importKeywords) (rest : List Char) :
    uncomment false (word.toList ++ rest) = (false, some (word.toList ++ rest)) := by
  rcases eq_of_mem_importKeywords hword with rfl | rfl <;> simp [uncomment, after?]

/-- A line that opens with a keyword and a gap is read by the grammar, else by the plain rule. -/
theorem readLine_keyword (hword : word ∈ Dialect.standard.importKeywords) (hgap : gap.text ≠ [])
    (rest : List Char) :
    readLine .standard (word.toList ++ (gap.text ++ rest)) =
      match Directive.parse? .standard (word.toList ++ (gap.text ++ rest)) with
      | some directive => readDirective directive
      | none => readPlain .standard (gap.text ++ rest) := by
  obtain ⟨c, more, hcons, hc⟩ := Gap.exists_cons hgap
  have hspace : isSpace c = true := isSpace_of_isBlank hc
  have hpassed : isPassedOver (word.toList ++ (gap.text ++ rest)) = false := by
    rcases eq_of_mem_importKeywords hword with rfl | rfl <;>
      simp [isPassedOver, startsWith, after?]
  have hafter : afterKeyword? Dialect.standard.importKeywords (word.toList ++ (gap.text ++ rest)) =
      some (gap.text ++ rest) := by
    rw [hcons]
    rcases eq_of_mem_importKeywords hword with rfl | rfl <;>
      simp [Dialect.standard, afterKeyword?, after?, hspace]
  rw [readLine, hpassed, hafter]
  rfl

/-- Where neither the grammar nor the plain rule finds a namespace, the line is passed over. -/
theorem readLine_skipped (hword : word ∈ Dialect.standard.importKeywords) (hgap : gap.text ≠ [])
    {rest : List Char}
    (hparse : ∀ directive,
      Directive.parse? .standard (word.toList ++ (gap.text ++ rest)) = some directive →
        directive.isNamespaceImport = false)
    (hplain : readPlain .standard (gap.text ++ rest) = .skipped) :
    readLine .standard (word.toList ++ (gap.text ++ rest)) = .skipped := by
  rw [readLine_keyword hword hgap]
  split
  · next directive hdirective => simp [readDirective, hparse directive hdirective]
  · exact hplain

/-- A word ends where white space follows it. -/
theorem takeWhile_append_space {word tail : List Char} (hword : ∀ c ∈ word, isSpace c = false)
    (htail : ∀ c ∈ tail.head?, isSpace c = true) :
    (word ++ tail).takeWhile (fun c => !isSpace c) = word := by
  rw [List.takeWhile_append_of_pos fun c hc => by simp [hword c hc]]
  cases tail with
  | nil => exact List.append_nil word
  | cons c tail => rw [List.takeWhile_cons_of_neg (by simp [htail c rfl]), List.append_nil]

theorem readPlain_static {spaces tail : List Char} (hspaces : ∀ c ∈ spaces, isSpace c = true)
    (htail : ∀ c ∈ tail.head?, isBlank c = true) :
    readPlain .standard (spaces ++ ("static".toList ++ tail)) = .skipped := by
  have hstart : trimStart (spaces ++ ("static".toList ++ tail)) = "static".toList ++ tail := by
    rw [trimStart_append hspaces]
    exact trimStart_cons (by decide) _
  have hfirst : ("static".toList ++ tail).takeWhile (fun c => !isSpace c) = "static".toList :=
    takeWhile_append_space (by simp [isSpace, isBlank]) fun c hc => isSpace_of_isBlank (htail c hc)
  simp only [readPlain, hstart, hfirst]
  rfl

theorem readLine_static (hword : word ∈ Dialect.standard.importKeywords) (hgap : gap.text ≠ [])
    {tail : List Char} (htail : ∀ c ∈ tail.head?, isBlank c = true) :
    readLine .standard (word.toList ++ (gap.text ++ ("static".toList ++ tail))) = .skipped := by
  refine readLine_skipped hword hgap (fun directive hparse => ?_)
    (readPlain_static (fun c hc => Gap.isSpace_of_mem hc) htail)
  have hhead : ∀ c ∈ ("static".toList ++ tail).head?, isBlank c = false := by
    rintro c hc
    obtain rfl := Option.some.inj hc
    decide
  rw [Directive.parse?_eq_some_iff, Directive.read?_append hword hgap hhead] at hparse
  cases tail with
  | nil =>
    have hclause : Dialect.standard.staticClause "static".toList = none := by decide
    rw [List.append_nil, hclause] at hparse
    rw [Directive.readTail?_static] at hparse
    cases hparse
  | cons c tail =>
    have hclause : Dialect.standard.staticClause ("static".toList ++ c :: tail) =
        some (Grammar.gap tail) := by
      have hafter : after? "static".toList ("static".toList ++ c :: tail) = some (c :: tail) :=
        after?_eq_some_iff.2 rfl
      have hblanks : blanks (c :: tail) = some (Grammar.gap tail) := if_pos (htail c rfl)
      rw [Dialect.staticClause]
      exact (congrArg (Option.bind · blanks) hafter).trans hblanks
    rw [hclause] at hparse
    rw [Directive.isNamespaceImport_of_readTail? hparse]
    rfl

/-- A path that opens like an import of members is passed over with it. -/
theorem readLine_staticLike (hword : word ∈ Dialect.standard.importKeywords) (hgap : gap.text ≠ [])
    {path : DottedPath} {closing : Gap} (h : path.IsStaticLike closing) (rest : List Char) :
    readLine .standard (word.toList ++ (gap.text ++ path.writtenPlain false closing rest)) =
      .skipped := by
  obtain ⟨hfirst, hne⟩ := h
  obtain ⟨c, tail, hcons, -⟩ := path.exists_behindFirst closing rest
  obtain ⟨d, more, hbehind, hd⟩ := Gap.exists_cons hne
  have hwritten : path.writtenPlain false closing rest =
      "static".toList ++ (d :: (more ++ c :: tail)) := by
    rw [DottedPath.writtenPlain, DottedPath.written, List.append_assoc, hcons, hfirst, hbehind]
    rfl
  rw [hwritten]
  exact readLine_static hword hgap fun e he => Option.some.inj he ▸ hd

theorem readPlain_alias {spaces : List Char} (hspaces : ∀ c ∈ spaces, isSpace c = true)
    (name : Name) {gap rest : List Char} (hgap : ∀ c ∈ gap, isBlank c = true)
    (hrest : ';' ∈ rest) :
    readPlain .standard (spaces ++ (name.text ++ (gap ++ '=' :: rest))) = .skipped := by
  have hstart : trimStart (spaces ++ (name.text ++ (gap ++ '=' :: rest))) =
      name.text ++ (gap ++ '=' :: rest) := by
    obtain ⟨c, more, hcons, hc⟩ := name.exists_cons
    rw [trimStart_append hspaces, hcons]
    exact trimStart_cons hc _
  have hsemicolon : (name.text ++ (gap ++ '=' :: rest)).contains ';' = true := by
    simp [hrest]
  have hfront : ∀ c ∈ name.text ++ gap, (c != ';') = true := by
    intro c hc
    rw [bne_iff_ne]
    rintro rfl
    rcases List.mem_append.1 hc with hname | hblank
    · exact name.semicolon_not_mem hname
    · exact absurd (hgap _ hblank) (by decide)
  have hpath : ((name.text ++ (gap ++ '=' :: rest)).takeWhile (· != ';')).contains '=' = true := by
    rw [← List.append_assoc, List.takeWhile_append_of_pos hfront,
      List.takeWhile_cons_of_pos (by decide)]
    simp
  simp only [readPlain, hstart, hsemicolon, hpath]
  split <;> rfl

theorem readLine_alias (hword : word ∈ Dialect.standard.importKeywords) (hgap : gap.text ≠ [])
    (name : Name) (after : Gap) {rest : List Char} (hrest : ';' ∈ rest) :
    readLine .standard
      (word.toList ++ (gap.text ++ (name.text ++ (after.text ++ '=' :: rest)))) = .skipped := by
  refine readLine_skipped hword hgap (fun directive hparse => ?_)
    (readPlain_alias (fun c hc => Gap.isSpace_of_mem hc) name
      (fun c hc => Gap.isBlank_of_mem hc) hrest)
  rw [Directive.parse?_eq_some_iff,
    Directive.read?_append hword hgap (name.isBlank_head _)] at hparse
  cases hclause : Dialect.standard.staticClause (name.text ++ (after.text ++ '=' :: rest)) with
  | some tail =>
    rw [hclause] at hparse
    rw [Directive.isNamespaceImport_of_readTail? hparse]
    rfl
  | none =>
    rw [hclause] at hparse
    have halias : aliasClause (maybeMarkedName '@') (name.text ++ (after.text ++ '=' :: rest)) =
        some (Grammar.gap rest) := name.aliasClause_equals after.toBlanks rest
    rw [Directive.isNamespaceImport_of_readTail? hparse, halias]
    rfl

/-- The line of a plain import gives its path, unless it is taken for an import of members. -/
theorem readLine_plain (hword : word ∈ Dialect.standard.importKeywords) (hgap : gap.text ≠ [])
    (path : DottedPath) {isQualified : Bool} (closing : Gap) {rest : List Char}
    (hrest : '\n' ∉ rest) (h : isQualified = true ∨ ¬ path.IsStaticLike closing) :
    readLine .standard (word.toList ++ (gap.text ++ path.writtenPlain isQualified closing rest)) =
      .imported path.dotted false := by
  have hhead : ∀ c ∈ (path.writtenPlain isQualified closing rest).head?, isBlank c = false := by
    cases isQualified with
    | true => exact DottedPath.globalName.isBlank_head _
    | false =>
      rw [DottedPath.writtenPlain, DottedPath.written, List.append_assoc]
      exact path.first.isBlank_head _
  have hparse : Directive.parse? .standard
      (word.toList ++ (gap.text ++ path.writtenPlain isQualified closing rest)) =
        some ⟨word.toList, path.dotted, false, none⟩ := by
    rw [Directive.parse?_eq_some_iff, Directive.read?_append hword hgap hhead,
      path.staticClause_writtenPlain closing rest h]
    exact path.readTail?_writtenPlain closing rest word.toList hrest
  have hne : path.dotted.isEmpty = false := by
    simp [DottedPath.dotted, Name.text]
  rw [readLine_keyword hword hgap, hparse]
  simp [readDirective, Directive.isNamespaceImport, hne]

end Header

end Vetting
