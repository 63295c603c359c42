import Vetting.Proofs.Sweep.Cut

/-!
# Vetting.Proofs.Sweep.Append

The sweep over one text and then another. A separator is a character that no token goes across,
such as a line feed: where the second text starts with one, the sweep over both is the sweep over
the first and then, in the region where it ended, the sweep over the second (`run_append`).

* `names_append_newline`: two texts with a line feed between them. Nothing of the first one is lost,
  and where it ends in code or in a line comment the second one is swept as if it stood alone.
* `preprocessorLine_hides_nothing_iff`: the sweep has no rule for preprocessor lines. Such a line
  leaves the code behind it visible exactly when its own text leaves no literal and no block comment
  open.
-/

namespace Vetting

/-- A character that joins neither what stands before it nor what stands behind it. -/
structure IsSeparator (c : Char) : Prop where
  noMark : c ∉ ['/', '*', '"', '\'', '\\']
  noPart : isIdentifierPart c = false

namespace Sweep

variable {dialect : Dialect} {c : Char}

/-- Only in a literal a separator is taken along, as one more character of it. -/
theorem not_joins_of_isSeparator (h : IsSeparator c) {region : Region} {front : List Char} :
    ¬ Joins dialect c region front := by
  have hmark := h.noMark
  simp only [List.mem_cons, List.not_mem_nil, or_false, not_or] at hmark
  obtain ⟨hslash, hstar, hquote, hapostrophe, hbackslash⟩ := hmark
  intro hjoins
  induction hjoins with
  | @last region d htakes hliteral =>
    cases region with
    | code =>
      rcases htakes with ⟨-, hc⟩ | ⟨-, hc⟩ | ⟨-, hc⟩
      · exact hslash hc
      · exact hstar hc
      · exact hquote hc
    | lineComment => exact htakes
    | blockComment => exact hslash htakes.2
    | string => exact hliteral (.inl rfl) (.plain hbackslash hquote .nil)
    | rawString => exact hquote htakes.2
    | character => exact hliteral (.inr rfl) (.plain hbackslash hapostrophe .nil)
  | later _ ih => exact ih

theorem run_append (h : IsSeparator c) (region : Region) (front back : List Char) :
    run dialect region (front ++ c :: back) =
      ((run dialect (run dialect region front).1 (c :: back)).1,
        (run dialect region front).2 ++
          (run dialect (run dialect region front).1 (c :: back)).2) :=
  run_append_of_not_joins h.noPart (not_joins_of_isSeparator h) back

/-- A letter or a low line starts an identifier, unless it opens a raw string or escapes one. -/
theorem codeStep_of_isIdentifierStart {rest : List Char} (hc : isIdentifierStart c = true)
    (hraw : ¬ (isMark dialect.rawStringMark c = true ∧ rest.head? = some '"'))
    (hescape : isMark dialect.escapeMark c = false) :
    codeStep dialect c rest = identifierFrom c rest := by
  have hne : ∀ sign ∈ ['/', '"', '\''], c ≠ sign := by
    rintro sign hsign rfl
    simp only [List.mem_cons, List.not_mem_nil, or_false] at hsign
    rcases hsign with rfl | rfl | rfl <;> exact absurd hc (by decide)
  have hslash : c ≠ '/' := hne _ (by simp)
  have hquote : c ≠ '"' := hne _ (by simp)
  have hapostrophe : c ≠ '\'' := hne _ (by simp)
  simp [codeStep, hslash, hquote, hapostrophe, hraw, hescape, hc]

end Sweep

/-- A dialect in which a line feed escapes identifiers reads it together with what follows: behind
it the mark of raw strings is an identifier, if it can be one, and opens no raw string. -/
def Dialect.EscapesRawString (dialect : Dialect) (text : List Char) : Prop :=
  dialect.escapeMark = "\n" ∧ ∃ mark rest, dialect.rawStringMark.toList = [mark] ∧
    isIdentifierStart mark = true ∧ text = mark :: '"' :: rest

/-! ## Two texts with a line feed between them -/

namespace Identifier

variable {dialect : Dialect}

theorem isSeparator_newline : IsSeparator '\n' := ⟨by decide, by decide⟩

/-- The sweep has recorded what it found before the line feed, and only goes on from there. -/
theorem all_append_newline (dialect : Dialect) (front back : List Char) :
    all dialect (front ++ '\n' :: back) =
      all dialect front ++ (Sweep.run dialect (lastRegion dialect front) ('\n' :: back)).2 := by
  rw [all, Sweep.run_append isSeparator_newline]
  rfl

/-- A line feed in code stands for itself, or escapes what is an identifier without it. -/
theorem run_newline_code (hraw : dialect.rawStringMark ≠ "\n") {text : List Char}
    (hescape : ¬ dialect.EscapesRawString text) :
    (Sweep.run dialect .code ('\n' :: text)).2 = all dialect text := by
  have hmark : Sweep.isMark dialect.rawStringMark '\n' = false := by
    rw [Sweep.isMark, beq_eq_false_iff_ne]
    exact fun h => hraw (String.toList_injective h)
  have hnewline : isIdentifierStart '\n' = false := by decide
  by_cases hname : Sweep.isMark dialect.escapeMark '\n' = true ∧
      ∃ next more, text = next :: more ∧ isIdentifierStart next = true
  · obtain ⟨hline, next, more, rfl, hnext⟩ := hname
    have hmarkEq : dialect.escapeMark.toList = ['\n'] := by simpa [Sweep.isMark] using hline
    have hother : Sweep.isMark dialect.escapeMark next = false := by
      rw [Sweep.isMark, hmarkEq, beq_eq_false_iff_ne]
      intro h
      rw [← (List.cons.inj h).1, hnewline] at hnext
      cases hnext
    have hopen : ¬ (Sweep.isMark dialect.rawStringMark next = true ∧ more.head? = some '"') := by
      rintro ⟨hrawMark, hhead⟩
      obtain ⟨rest, rfl⟩ := List.head?_eq_some_iff.1 hhead
      exact hescape ⟨String.toList_injective hmarkEq, next, rest,
        by simpa [Sweep.isMark] using hrawMark, hnext, rfl⟩
    have hstep : Sweep.step dialect .code '\n' (next :: more) =
        Sweep.step dialect .code next more := by
      have hown := Sweep.codeStep_of_isIdentifierStart hnext hopen hother
      simp only [Sweep.step, hown]
      simp [Sweep.codeStep, hmark, hline, hnext]
    rw [all, Sweep.run_cons, Sweep.run_cons .code next, hstep]
  · have hstep : Sweep.step dialect .code '\n' text = ⟨.code, none, text⟩ := by
      cases text with
      | nil => simp [Sweep.step, Sweep.codeStep, hmark, hnewline]
      | cons next more =>
        have hplain : Sweep.isMark dialect.escapeMark '\n' = true →
            isIdentifierStart next = false := by
          intro hline
          rw [Bool.eq_false_iff]
          exact fun hnext => hname ⟨hline, next, more, rfl, hnext⟩
        cases hline : Sweep.isMark dialect.escapeMark '\n' with
        | false => simp [Sweep.step, Sweep.codeStep, hmark, hline, hnewline]
        | true => simp [Sweep.step, Sweep.codeStep, hmark, hline, hnewline, hplain hline]
    rw [Sweep.run_of_step hstep]
    rfl

/-- Behind a line feed the sweep is in code where it was in code or in a line comment before. -/
theorem run_newline (hraw : dialect.rawStringMark ≠ "\n") {region : Region} {text : List Char}
    (h : region = .code ∧ ¬ dialect.EscapesRawString text ∨ region = .lineComment) :
    (Sweep.run dialect region ('\n' :: text)).2 = all dialect text := by
  rcases h with ⟨rfl, hescape⟩ | rfl
  · exact run_newline_code hraw hescape
  · have hstep : Sweep.step dialect .lineComment '\n' text = ⟨.code, none, text⟩ := rfl
    rw [Sweep.run_of_step hstep]
    rfl

theorem mem_names {text name : String} :
    name ∈ names dialect text ↔ name.toList ∈ all dialect text.toList := by
  simp only [names, List.mem_map]
  constructor
  · rintro ⟨chars, hchars, rfl⟩
    simpa using hchars
  · exact fun h => ⟨name.toList, h, String.ofList_toList⟩

theorem toList_append_newline (front back : String) :
    (front ++ "\n" ++ back).toList = front.toList ++ '\n' :: back.toList := by
  simp

/-- No identifier is lost by what is appended behind a line feed. -/
theorem mem_names_append {front name : String} (h : name ∈ names dialect front) (back : String) :
    name ∈ names dialect (front ++ "\n" ++ back) := by
  rw [mem_names] at h ⊢
  rw [toList_append_newline, all_append_newline]
  exact List.mem_append_left _ h

/-- A text keeps its identifiers when a line feed and more text follow. Where it ends in code or in
a line comment, the identifiers of the whole are those of either text. Only in code, and only where
the line feed escapes what would open a raw string, the second text is read in another way. -/
theorem names_append_newline {dialect : Dialect} (hraw : dialect.rawStringMark ≠ "\n")
    (front back : String) :
    (∀ name ∈ names dialect front, name ∈ names dialect (front ++ "\n" ++ back)) ∧
      (lastRegion dialect front.toList = .code ∧ ¬ dialect.EscapesRawString back.toList ∨
          lastRegion dialect front.toList = .lineComment →
        ∀ name, name ∈ names dialect (front ++ "\n" ++ back) ↔
          name ∈ names dialect front ∨ name ∈ names dialect back) := by
  refine ⟨fun name hname => mem_names_append hname back, fun hregion name => ?_⟩
  simp only [mem_names, toList_append_newline, all_append_newline, run_newline hraw hregion,
    List.mem_append]

/-- A dialect in which a line feed escapes identifiers, and an `R` opens raw strings. -/
def escapingLines : Dialect := { rawStringMark := "R", escapeMark := "\n" }

/-- A line feed that escapes an `R` before a quote. -/
theorem names_append_newline_of_escape :
    ¬ ∀ (dialect : Dialect) (front back : String), dialect.rawStringMark ≠ "\n" →
      (∀ name ∈ names dialect front, name ∈ names dialect (front ++ "\n" ++ back)) ∧
        (lastRegion dialect front.toList = .code ∨ lastRegion dialect front.toList = .lineComment →
          ∀ name, name ∈ names dialect (front ++ "\n" ++ back) ↔
            name ∈ names dialect front ∨ name ∈ names dialect back) := by
  intro h
  have hwhole : names escapingLines ("" ++ "\n" ++ "R\"x\"") = ["R"] := by decide +kernel
  have hback : names escapingLines "R\"x\"" = [] := by decide +kernel
  have hfront : names escapingLines "" = [] := by decide +kernel
  have hboth := (h escapingLines "" "R\"x\"" (by decide)).2 (.inl (by decide +kernel)) "R"
  rw [hwhole, hback, hfront] at hboth
  simp at hboth

/-- In the same dialect, an `R` that opens no raw string, and one that opens one behind a line
comment. -/
theorem names_append_newline_of_word :
    escapingLines.rawStringMark ≠ "\n" ∧
      (∀ name, name ∈ names escapingLines ("a /" ++ "\n" ++ "R b") ↔
        name ∈ names escapingLines "a /" ∨ name ∈ names escapingLines "R b") ∧
      ∀ name, name ∈ names escapingLines ("a // 'c" ++ "\n" ++ "R\"x\"d") ↔
        name ∈ names escapingLines "a // 'c" ∨ name ∈ names escapingLines "R\"x\"d" := by
  have hraw : escapingLines.rawStringMark ≠ "\n" := by decide
  have hescape : ¬ escapingLines.EscapesRawString "R b".toList := by
    rintro ⟨-, mark, rest, -, -, htext⟩
    simp at htext
  exact ⟨hraw, (names_append_newline hraw "a /" "R b").2 (.inl ⟨by decide +kernel, hescape⟩),
    (names_append_newline hraw "a // 'c" "R\"x\"d").2 (.inr (by decide +kernel))⟩

end Identifier

/-! ## Preprocessor lines -/

namespace Identifier

theorem isSeparator_number_sign : IsSeparator '#' := ⟨by decide, by decide⟩

/-- A text in code, a preprocessor line, and what follows: the sweep over the line's own text
decides in which region the sweep over the rest begins. -/
theorem all_preprocessorLine {before : List Char}
    (hbefore : lastRegion .standard before = .code) (directive after : List Char) :
    all .standard (before ++ '#' :: (directive ++ '\n' :: after)) =
      all .standard before ++ (all .standard directive ++
        (Sweep.run .standard (lastRegion .standard directive) ('\n' :: after)).2) := by
  have hsign : Sweep.step .standard .code '#' (directive ++ '\n' :: after) =
      ⟨.code, none, directive ++ '\n' :: after⟩ := by
    simp [Sweep.step, Sweep.codeStep, Sweep.isMark, Dialect.standard, isIdentifierStart, isLetter]
  simp only [all, lastRegion] at hbefore ⊢
  rw [Sweep.run_append isSeparator_number_sign, hbefore, Sweep.run_of_step hsign,
    Sweep.run_append isSeparator_newline]

theorem run_newline_of_code {region : Region} (h : region = .code ∨ region = .lineComment)
    (text : List Char) :
    (Sweep.run .standard region ('\n' :: text)).2 = all .standard text := by
  have hescape : ¬ Dialect.standard.EscapesRawString text := fun h => absurd h.1 (by decide)
  exact run_newline (by decide) (h.imp_left fun hcode => ⟨hcode, hescape⟩)

/-- A name of letters `a` alone. -/
def letters (n : Nat) : List Char := List.replicate (n + 1) 'a'

theorem all_letters (n : Nat) : all .standard (letters n) = [letters n] := by
  have hpart : isIdentifierPart 'a' = true := by decide
  have hs : Sweep.step .standard .code 'a' (List.replicate n 'a') =
      ⟨.code, some (letters n), []⟩ := by
    simp [Sweep.step, Sweep.codeStep, Sweep.isMark, Dialect.standard, Sweep.identifierFrom,
      isIdentifierStart, isLetter, letters, hpart, List.replicate_succ]
  rw [all, letters, List.replicate_succ, Sweep.run_cons, hs]
  simp [letters, List.replicate_succ]

/-- In a literal or a block comment such a name goes unseen. -/
theorem run_newline_letters {region : Region} (hcode : region ≠ .code)
    (hline : region ≠ .lineComment) (n : Nat) :
    (Sweep.run .standard region ('\n' :: letters n)).2 = [] := by
  have hs : Sweep.step .standard region '\n' (letters n) = ⟨region, none, letters n⟩ := by
    cases region with
    | code => exact absurd rfl hcode
    | lineComment => exact absurd rfl hline
    | _ => simp [Sweep.step, Sweep.literalStep]
  have hbody : region.Holds (letters n) := by
    refine Region.holds_of_plain hcode fun c hc => ?_
    obtain rfl := List.eq_of_mem_replicate hc
    decide
  have hrun : Sweep.run .standard region (letters n ++ []) = Sweep.run .standard region [] :=
    Sweep.run_of_holds hbody (by simp)
  rw [List.append_nil] at hrun
  rw [Sweep.run_of_step hs, hrun, Sweep.run_nil]

theorem exists_length_lt (names : List (List Char)) : ∃ n, ∀ name ∈ names, name.length < n := by
  induction names with
  | nil => exact ⟨0, by simp⟩
  | cons name names ih =>
    obtain ⟨n, hn⟩ := ih
    refine ⟨n + name.length + 1, fun other hother => ?_⟩
    rcases List.mem_cons.1 hother with rfl | hother
    · omega
    · have := hn other hother
      omega

/-- A preprocessor line hides nothing of what follows exactly when its own text leaves no literal
and no block comment open. -/
theorem preprocessorLine_hides_nothing_iff {before directive : String}
    (hbefore : lastRegion .standard before.toList = .code) :
    (∀ after : String, ∀ name ∈ names .standard after,
        name ∈ names .standard (before ++ "#" ++ directive ++ "\n" ++ after)) ↔
      lastRegion .standard directive.toList = .code ∨
        lastRegion .standard directive.toList = .lineComment := by
  have hall : ∀ after : String,
      all .standard (before ++ "#" ++ directive ++ "\n" ++ after).toList =
        all .standard before.toList ++ (all .standard directive.toList ++
          (Sweep.run .standard (lastRegion .standard directive.toList)
            ('\n' :: after.toList)).2) := by
    intro after
    rw [← all_preprocessorLine hbefore]
    simp
  constructor
  · intro h
    by_cases hcode : lastRegion .standard directive.toList = .code
    · exact .inl hcode
    by_cases hline : lastRegion .standard directive.toList = .lineComment
    · exact .inr hline
    -- Otherwise a name goes unseen that is longer than any in the two texts before.
    exfalso
    obtain ⟨n, hn⟩ :=
      exists_length_lt (all .standard before.toList ++ all .standard directive.toList)
    have hmem := h (String.ofList (letters n)) (String.ofList (letters n)) (by
      rw [mem_names, String.toList_ofList, all_letters]
      exact List.mem_singleton_self _)
    rw [mem_names, hall, String.toList_ofList, run_newline_letters hcode hline,
      List.append_nil] at hmem
    have := hn _ hmem
    simp only [letters, List.length_replicate] at this
    omega
  · intro h after name hname
    rw [mem_names] at hname ⊢
    rw [hall, run_newline_of_code h]
    exact List.mem_append_right _ (List.mem_append_right _ hname)

/-- Text with an apostrophe after the number sign, as in `#region Don't edit`, opens a literal. -/
theorem preprocessorLine_hides_code :
    ¬ ∀ before directive after : String, (before = "" ∨ ∃ text, before = text ++ "\n") →
      lastRegion .standard before.toList = .code →
      (∀ c ∈ directive.toList, isLineBreak c = false) →
      ∀ name ∈ names .standard after,
        name ∈ names .standard (before ++ "#" ++ directive ++ "\n" ++ after) := by
  intro h
  have hafter : names .standard "x" = ["x"] := by decide +kernel
  have hnone : names .standard ("" ++ "#" ++ "'" ++ "\n" ++ "x") = [] := by decide +kernel
  have hline : ∀ c ∈ "'".toList, isLineBreak c = false := by simp [isLineBreak]
  have hmem := h "" "'" "x" (.inl rfl) (by decide +kernel) hline "x" (by simp [hafter])
  rw [hnone] at hmem
  cases hmem

/-- A directive whose text has a closed literal and a line comment. -/
theorem preprocessorLine_with_comment :
    lastRegion .standard "using A;\n".toList = .code ∧
      ∀ after : String, ∀ name ∈ names .standard after,
        name ∈ names .standard
          ("using A;\n" ++ "#" ++ "line 1 \"a.cs\" // it's" ++ "\n" ++ after) := by
  have hbefore : lastRegion .standard "using A;\n".toList = .code := by decide +kernel
  have hline : lastRegion .standard "line 1 \"a.cs\" // it's".toList = .lineComment := by
    decide +kernel
  exact ⟨hbefore, (preprocessorLine_hides_nothing_iff hbefore).2 (.inr hline)⟩

end Identifier

end Vetting
