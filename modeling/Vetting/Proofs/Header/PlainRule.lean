import Vetting.Proofs.Directive.Taken

/-!
# Vetting.Proofs.Header.PlainRule

The plain rule is there for lines that do not fit the grammar. On a line that does fit it, the two
decide alike: the plain rule passes over what the grammar reads as an import of members or as an
alias, and finds the namespace of any other directive, with the blanks that stand in it.

* `readPlain_ofNamespace`: what the plain rule makes of a dotted path.
* `readPlain_agrees`: the plain rule and the grammar, on a line that both read.
-/

namespace Vetting

open Grammar Text

namespace BehindName

variable {text : List Char}

theorem endsWord (h : BehindName text) : EndsWord text := by
  obtain ⟨blank, sign, rest, hblank, ⟨-, hsign⟩, rfl⟩ := h
  cases blank with
  | nil => exact endsWord_cons hsign rest
  | cons c blank =>
    have hc : isBlank c = true := hblank c List.mem_cons_self
    exact endsWord_cons (isWord_of_isSpace (isSpace_of_isBlank hc)) _

/-- White space behind a name is a blank. -/
theorem isBlank_of_head (h : BehindName text) :
    ∃ c rest, text = c :: rest ∧ (isSpace c = true → isBlank c = true) := by
  obtain ⟨blank, sign, rest, hblank, ⟨hsign, -⟩, rfl⟩ := h
  cases blank with
  | nil => exact ⟨sign, rest, rfl, fun hspace => absurd hspace (by simp [hsign])⟩
  | cons c blank => exact ⟨c, blank ++ sign :: rest, rfl, fun _ => hblank c List.mem_cons_self⟩

end BehindName

/-- The first word of a text that opens with a name is `static` only where the static clause
matches, though words end at any white space and the clause asks for a blank. -/
theorem Name.takeWhile_ne_static (name : Name) {tail : List Char} (htail : BehindName tail)
    (hclause : Dialect.standard.staticClause (name.text ++ tail) = none) :
    (name.text ++ tail).takeWhile (fun c => !isSpace c) ≠ "static".toList := by
  intro hword
  have hsplit : name.text ++ tail =
      "static".toList ++ (name.text ++ tail).dropWhile fun c => !isSpace c := by
    rw [← hword, List.takeWhile_append_dropWhile]
  have hspace : ∀ c ∈ ((name.text ++ tail).dropWhile fun c => !isSpace c).head?,
      isSpace c = true := by
    intro c hc
    have hnot := List.head?_dropWhile_not (fun c => !isSpace c) (name.text ++ tail)
    rw [Option.mem_def.1 hc] at hnot
    simpa using hnot
  rcases name.eq_or_exists_of_append_eq htail.endsWord (by decide) hsplit with
    ⟨hname, heq⟩ | ⟨c, hc, more, heq⟩
  · -- The name is `static`: the white space behind it is a blank, and the clause matches.
    obtain ⟨c, rest, rfl, hblank⟩ := htail.isBlank_of_head
    have hc : isBlank c = true := hblank (hspace c (by rw [← heq]; rfl))
    have hblanks : blanks (c :: rest) = some (gap rest) := if_pos hc
    rw [hname, Dialect.staticClause, show Dialect.standard.staticKeyword = "static" from rfl,
      after?_eq_some_iff.2 rfl, Option.bind_some, hblanks] at hclause
    cases hclause
  · -- The name goes on behind the word, with no white space.
    have hc' := hspace c (by rw [heq]; rfl)
    rw [Name.isSpace_of_mem hc] at hc'
    cases hc'

namespace IsDotted

variable {path : List Char}

theorem ne_nil (h : IsDotted path) : path ≠ [] := by
  obtain ⟨front, c, rfl, -⟩ := h.exists_concat
  simp

/-- What a path opens a text with: no white space, and the word `static` only in a static clause. -/
theorem head_written (h : IsDotted path) (isQualified : Bool) {text : List Char}
    (htext : BehindName text) :
    ∃ c more, DottedPath.qualifierText isQualified ++ (path ++ text) = c :: more ∧
      isSpace c = false := by
  cases isQualified with
  | true => exact ⟨_, _, rfl, by decide⟩
  | false =>
    obtain ⟨name, tail, hname, -⟩ := h.exists_name_append htext
    obtain ⟨c, more, hcons, hc⟩ := name.exists_cons
    refine ⟨c, more ++ tail, ?_, hc⟩
    show path ++ text = c :: (more ++ tail)
    rw [hname, hcons, List.cons_append]

theorem takeWhile_ne_static (h : IsDotted path) (isQualified : Bool) {text : List Char}
    (htext : BehindName text) (hclause : Dialect.standard.staticClause
      (DottedPath.qualifierText isQualified ++ (path ++ text)) = none) :
    (DottedPath.qualifierText isQualified ++ (path ++ text)).takeWhile (fun c => !isSpace c) ≠
      "static".toList := by
  cases isQualified with
  | true =>
    intro hword
    have hg : isSpace 'g' = false := by decide
    simp [DottedPath.qualifierText, Dialect.standard, hg] at hword
  | false =>
    obtain ⟨name, tail, hname, htail⟩ := h.exists_name_append htext
    simp only [DottedPath.qualifierText, Bool.false_eq_true, if_false, List.nil_append, hname]
      at hclause ⊢
    exact name.takeWhile_ne_static htail hclause

theorem trim_written (h : IsDotted path) (isQualified : Bool) {gap : List Char}
    (hgap : AllBlank gap) :
    trim (DottedPath.qualifierText isQualified ++ (path ++ gap)) =
      DottedPath.qualifierText isQualified ++ path := by
  obtain ⟨c, more, hcons, hc⟩ :=
    h.head_written isQualified ⟨gap, ';', [], hgap, by decide, rfl⟩
  obtain ⟨front, d, hlast, hd⟩ := h.exists_concat
  rw [← List.append_assoc]
  refine trim_append_space ?_ ?_ fun e he => isSpace_of_isBlank (hgap e he)
  · intro e he
    rw [← List.append_assoc] at hcons
    have hhead := congrArg List.head? hcons
    rw [List.head?_append, Option.mem_def.1 he] at hhead
    obtain rfl : e = c := Option.some.inj hhead
    exact hc
  · intro e he
    rw [hlast, ← List.append_assoc, List.getLast?_concat] at he
    obtain rfl : d = e := Option.some.inj he
    exact hd

end IsDotted

namespace Header

variable {words : List String} {spaces front path gap rest line body : List Char}

/-- What the plain rule makes of a text in which neither an equals sign nor another semicolon stands
before a semicolon. -/
theorem readPlain_semicolon (hspaces : ∀ c ∈ spaces, isSpace c = true)
    (hhead : ∀ c ∈ (front ++ ';' :: rest).head?, isSpace c = false)
    (hstatic : (front ++ ';' :: rest).takeWhile (fun c => !isSpace c) ≠ "static".toList)
    (hsemicolon : ';' ∉ front) (hequals : '=' ∉ front)
    (hpath : Dialect.standard.unqualified (trim front) = path) (hne : path ≠ []) :
    readPlain .standard (spaces ++ (front ++ ';' :: rest)) = .imported path true := by
  obtain ⟨c, path, rfl⟩ := List.exists_cons_of_ne_nil hne
  have hstart : trimStart (spaces ++ (front ++ ';' :: rest)) = front ++ ';' :: rest := by
    rw [trimStart_append hspaces]
    cases front with
    | nil => exact trimStart_cons (hhead _ rfl) _
    | cons d front => exact trimStart_cons (hhead _ rfl) _
  have hword : ((front ++ ';' :: rest).takeWhile (fun c => !isSpace c) ==
      Dialect.standard.staticKeyword.toList) = false := beq_eq_false_iff_ne.2 hstatic
  have hcontains : (front ++ ';' :: rest).contains ';' = true := by simp
  have htake : (front ++ ';' :: rest).takeWhile (· != ';') = front := by
    rw [List.takeWhile_append_of_pos, List.takeWhile_cons_of_neg (by decide), List.append_nil]
    intro d hd
    rw [bne_iff_ne]
    rintro rfl
    exact hsemicolon hd
  have hno : front.contains '=' = false := by simpa using hequals
  simp only [readPlain, hstart, hword, hcontains, htake, hno, hpath, Bool.and_false, Bool.not_true,
    Bool.false_eq_true, if_false]

/-- The plain rule finds a path as it is written, without the gap behind it and the qualifier before
it. -/
theorem readPlain_ofNamespace (hspaces : ∀ c ∈ spaces, isSpace c = true) (isQualified : Bool)
    (hpath : IsDotted path) (hgap : AllBlank gap)
    (hclause : Dialect.standard.staticClause
      (DottedPath.qualifierText isQualified ++ (path ++ (gap ++ ';' :: rest))) = none) :
    readPlain .standard
        (spaces ++ (DottedPath.qualifierText isQualified ++ (path ++ (gap ++ ';' :: rest)))) =
      .imported path true := by
  have hbehind : BehindName (gap ++ ';' :: rest) := ⟨gap, ';', rest, hgap, by decide, rfl⟩
  have hstatic := hpath.takeWhile_ne_static isQualified hbehind hclause
  obtain ⟨c, more, hcons, hc⟩ := hpath.head_written isQualified hbehind
  have hassoc : DottedPath.qualifierText isQualified ++ (path ++ (gap ++ ';' :: rest)) =
      DottedPath.qualifierText isQualified ++ (path ++ gap) ++ ';' :: rest := by simp
  have hsign : ∀ sign ∈ [';', '='],
      sign ∉ DottedPath.qualifierText isQualified ++ (path ++ gap) := by
    intro sign hsign
    have hpath' : sign ∉ path := hpath.sign_not_mem (List.mem_append_left [':'] hsign)
    obtain ⟨hqualifier, hblank⟩ :
        sign ∉ DottedPath.qualifierText isQualified ∧ isBlank sign = false := by
      simp only [List.mem_cons, List.not_mem_nil, or_false] at hsign
      rcases hsign with rfl | rfl <;> cases isQualified <;> decide
    simp only [List.mem_append, not_or]
    exact ⟨hqualifier, hpath', hgap.not_mem hblank⟩
  have hname : Dialect.standard.unqualified
      (trim (DottedPath.qualifierText isQualified ++ (path ++ gap))) = path := by
    rw [hpath.trim_written isQualified hgap]
    exact DottedPath.unqualified_qualifierText isQualified (hpath.sign_not_mem (by decide))
  rw [hassoc] at hstatic hcons ⊢
  refine readPlain_semicolon hspaces ?_ hstatic (hsign _ (by decide)) (hsign _ (by decide)) hname
    hpath.ne_nil
  rintro d hd
  rw [hcons] at hd
  obtain rfl := Option.some.inj hd
  exact hc

/-! ## The plain rule and the grammar -/

theorem exists_of_afterKeyword? (h : afterKeyword? words line = some body) :
    ∃ word ∈ words, line = word.toList ++ body ∧ ∃ c rest, body = c :: rest ∧ isSpace c = true := by
  induction words with
  | nil => cases h
  | cons word words ih =>
    have later : afterKeyword? words line = some body →
        ∃ word' ∈ word :: words, line = word'.toList ++ body ∧
          ∃ c rest, body = c :: rest ∧ isSpace c = true := by
      intro h
      obtain ⟨word', hmem, hline⟩ := ih h
      exact ⟨word', List.mem_cons_of_mem word hmem, hline⟩
    rw [afterKeyword?] at h
    split at h
    · next c rest hafter =>
      split at h
      · next hc =>
        obtain rfl := Option.some.inj h
        exact ⟨word, List.mem_cons_self, after?_eq_some_iff.1 hafter, c, rest, rfl, hc⟩
      · exact later h
    · exact later h

/-- The grammar and the plain rule see the same keyword, though the one tries long keywords first
and the other asks for white space behind them: no keyword holds white space. -/
theorem eq_of_append_eq {word word' rest rest' : List Char}
    (hword : ∀ c ∈ word, isSpace c = false) (hword' : ∀ c ∈ word', isSpace c = false)
    (hrest : ∀ c ∈ rest.head?, isSpace c = true) (hrest' : ∀ c ∈ rest'.head?, isSpace c = true)
    (h : word ++ rest = word' ++ rest') : rest = rest' := by
  have heq : word = word' := by
    rw [← takeWhile_append_space hword hrest, ← takeWhile_append_space hword' hrest', h]
  subst heq
  exact List.append_cancel_left h

theorem readPlain_statement {directive : Directive} {text : List Char}
    (h : Statement directive text) (hspaces : ∀ c ∈ spaces, isSpace c = true) :
    ((directive.isStatic = true ∨ directive.alias?.isSome = true) ∧
        readPlain .standard (spaces ++ text) = .skipped) ∨
      (¬ (directive.isStatic = true ∨ directive.alias?.isSome = true) ∧
        ∃ path, readPlain .standard (spaces ++ text) = .imported path true ∧
          (path.filter fun c => !isSpace c) = directive.path) := by
  cases h with
  | @ofMembers c rest hstatic hc =>
    refine .inl ⟨.inl hstatic, readPlain_static hspaces fun d hd => ?_⟩
    exact Option.some.inj hd ▸ hc
  | ofAlias name _ halias hgap hrest =>
    exact .inl ⟨.inr halias, readPlain_alias hspaces name hgap hrest⟩
  | ofNamespace isQualified hstatic halias hpath hdotted hgap hclause =>
    refine .inr ⟨by simp [hstatic, halias], _, ?_, hpath.symm⟩
    exact readPlain_ofNamespace hspaces isQualified hdotted hgap hclause

/-- On a line that both read, the plain rule and the grammar decide alike, whatever the keywords of
the dialect are. -/
theorem readPlain_agrees (hwords : ∀ word ∈ words, ∀ c ∈ word.toList, isSpace c = false)
    {directive : Directive}
    (hkeyword : afterKeyword? (Dialect.withKeywords words).importKeywords line = some body)
    (hparse : Directive.parse? (.withKeywords words) line = some directive) :
    (readPlain (.withKeywords words) body = .skipped ↔
        directive.isStatic = true ∨ directive.alias?.isSome = true) ∧
      (¬ (directive.isStatic = true ∨ directive.alias?.isSome = true) →
        ∃ path, readPlain (.withKeywords words) body = .imported path true ∧
          (path.filter fun c => !isSpace c) = directive.path) := by
  obtain ⟨word, hmem, hline, c, more, hbody, hc⟩ := exists_of_afterKeyword? hkeyword
  obtain ⟨word', hmem', blank, text, hblank, hne, hline', hstatement⟩ :=
    Directive.exists_of_read? (Directive.read?_of_parse? hparse)
  obtain rfl : body = blank ++ text := by
    refine eq_of_append_eq (hwords word hmem) (hwords word' hmem') ?_ ?_ (hline.symm.trans hline')
    · rintro d hd
      rw [hbody] at hd
      exact Option.some.inj hd ▸ hc
    · obtain ⟨d, blank, rfl⟩ := List.exists_cons_of_ne_nil hne
      exact fun e he => Option.some.inj he ▸ isSpace_of_isBlank (hblank d List.mem_cons_self)
  have hplain : ∀ text, readPlain (.withKeywords words) text = readPlain .standard text :=
    fun _ => rfl
  rw [hplain]
  rcases readPlain_statement hstatement hblank.isSpace_of_mem with
    ⟨hother, hskipped⟩ | ⟨hnamespace, path, himported, hpath⟩
  · exact ⟨⟨fun _ => hother, fun _ => hskipped⟩, fun hnot => absurd hother hnot⟩
  · refine ⟨⟨fun hskipped => ?_, fun hother => absurd hother hnamespace⟩,
      fun _ => ⟨path, himported, hpath⟩⟩
    rw [himported] at hskipped
    cases hskipped

/-- A keyword that opens with another one, the qualifier, and gaps around a dot. -/
theorem readPlain_agrees_long_keyword :
    (∀ word ∈ ["use", "user"], ∀ c ∈ word.toList, isSpace c = false) ∧
      afterKeyword? (Dialect.withKeywords ["use", "user"]).importKeywords
        "user global::A . B ;".toList = some " global::A . B ;".toList ∧
      Directive.parse? (.withKeywords ["use", "user"]) "user global::A . B ;".toList =
        some ⟨"user".toList, "A.B".toList, false, none⟩ ∧
      ∃ path, readPlain (.withKeywords ["use", "user"]) " global::A . B ;".toList =
          .imported path true ∧ (path.filter fun c => !isSpace c) = "A.B".toList := by
  have hwords : ∀ word ∈ ["use", "user"], ∀ c ∈ word.toList, isSpace c = false := by
    simp [isSpace, isBlank]
  have hafter : afterKeyword? (Dialect.withKeywords ["use", "user"]).importKeywords
      "user global::A . B ;".toList = some " global::A . B ;".toList := by decide
  have hchoices : (Dialect.withKeywords ["use", "user"]).keywordChoices =
      ["user".toList, "use".toList] := by
    simp [Dialect.keywordChoices, Dialect.withKeywords, List.mergeSort,
      List.MergeSort.Internal.splitInTwo]
  have hread : Directive.read? (.withKeywords ["use", "user"]) "user global::A . B ;".toList =
      some (⟨"user".toList, "A.B".toList, false, none⟩, []) := by
    rw [Directive.read?, Dialect.keyword, hchoices]
    decide +kernel
  have htrouble : (Dialect.withKeywords ["use", "user"]).grammarTrouble?.isSome = false := by
    decide +kernel
  have hparse : Directive.parse? (.withKeywords ["use", "user"]) "user global::A . B ;".toList =
      some ⟨"user".toList, "A.B".toList, false, none⟩ := by
    rw [Directive.parse?, Dialect.isExtended_withKeywords, if_neg Bool.false_ne_true, htrouble,
      if_neg Bool.false_ne_true, hread]
  exact ⟨hwords, hafter, hparse, (readPlain_agrees hwords hafter hparse).2 (by simp)⟩

end Header

end Vetting
