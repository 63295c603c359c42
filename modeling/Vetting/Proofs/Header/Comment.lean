import Vetting.Proofs.Header.Scan

/-!
# Vetting.Proofs.Header.Comment

A block comment with which a line of a header starts, and what follows it. Behind the end of a
comment that was opened on an earlier line, the scan goes on as on a line of its own. Behind the end
of one that was opened on the same line, it does so too, but it does not look for a second comment
there.

* `importsOf_open`: the text behind a comment that is open.
* `importsOf_comment`: the text behind a comment at the start of a line.
* `importsOf_secondComment`: the text behind a comment that ends on its line, where another one
  follows it there.
-/

namespace Vetting

namespace Header

open Text

variable {dialect : Dialect} {space body : List Char}

/-- A line that does not open with a comment is left as it is. -/
theorem uncomment_of_no_comment {line : List Char} (h : ¬ ['/', '*'] <+: line) :
    uncomment false line = (false, some line) := by
  have hnone : after? ['/', '*'] line = none := by
    rw [Option.eq_none_iff_forall_ne_some]
    exact fun rest hrest => h ⟨rest, (after?_eq_some_iff.1 hrest).symm⟩
  simp [uncomment, hnone]

theorem uncomment_open {line : List Char} (h : ¬ ['*', '/'] <:+: line) :
    uncomment true line = (true, none) := by
  have hend := afterFirst?_eq_none (List.cons_ne_nil _ _) h
  simp [uncomment, hend]

theorem uncomment_opened {line : List Char} (h : ¬ ['*', '/'] <:+: line) :
    uncomment false ('/' :: '*' :: line) = (true, none) := by
  have hend := afterFirst?_eq_none (List.cons_ne_nil _ _) h
  have hstart : after? ['/', '*'] ('/' :: '*' :: line) = some line := after?_eq_some_iff.2 rfl
  simp [uncomment, hstart, hend]

/-! ## The line on which a comment ends -/

theorem trim_closing (body line : List Char) :
    trim (body ++ '*' :: '/' :: line) = trimStart body ++ '*' :: '/' :: trimEnd line := by
  have hend := trimEnd_append_cons (show isSpace '/' = false by decide) (trimStart body ++ ['*'])
    line
  rw [trim, trimStart_append_cons (by decide)]
  simpa using hend

theorem trimEnd_closing (body line : List Char) :
    trimEnd (body ++ '*' :: '/' :: line) = body ++ '*' :: '/' :: trimEnd line := by
  have hend := trimEnd_append_cons (show isSpace '/' = false by decide) (body ++ ['*']) line
  simpa using hend

/-- Where an open comment ends, what follows it is a line of its own. -/
theorem uncomment_closing (h : ¬ ['*', '/'] <:+: body) {line : List Char} (hline : trim line ≠ []) :
    uncomment true (trim (body ++ '*' :: '/' :: line)) = uncomment false (trim line) := by
  have hbody : ¬ ['*', '/'] <:+: trimStart body := fun hin =>
    h (hin.trans (List.dropWhile_suffix _).isInfix)
  have hend := afterFirst?_append hbody (trimEnd line)
  obtain ⟨c, rest, hcons⟩ := List.exists_cons_of_ne_nil hline
  simp [uncomment, trim_closing, hend, trim_trimEnd, hcons]

theorem uncomment_closing_blank (h : ¬ ['*', '/'] <:+: body) {line : List Char}
    (hline : trim line = []) :
    uncomment true (trim (body ++ '*' :: '/' :: line)) = (false, none) := by
  have hbody : ¬ ['*', '/'] <:+: trimStart body := fun hin =>
    h (hin.trans (List.dropWhile_suffix _).isInfix)
  have hend := afterFirst?_append hbody (trimEnd line)
  simp [uncomment, trim_closing, hend, trim_trimEnd, hline]

/-- Where a comment ends on the line on which it was opened, what follows it is left as it is. -/
theorem uncomment_opened_closed (hspace : ∀ c ∈ space, isSpace c = true)
    (h : ¬ ['*', '/'] <:+: body) {line : List Char} (hline : trim line ≠ []) :
    uncomment false (trim (space ++ '/' :: '*' :: (body ++ '*' :: '/' :: line))) =
      (false, some (trim line)) := by
  have hend := afterFirst?_append h (trimEnd line)
  have hstart : after? ['/', '*'] ('/' :: '*' :: (body ++ '*' :: '/' :: trimEnd line)) =
      some (body ++ '*' :: '/' :: trimEnd line) := after?_eq_some_iff.2 rfl
  obtain ⟨c, rest, hcons⟩ := List.exists_cons_of_ne_nil hline
  rw [trim_signs hspace (by decide) (by decide), trimEnd_closing]
  simp [uncomment, hstart, hend, trim_trimEnd, hcons]

theorem uncomment_opened_closed_blank (hspace : ∀ c ∈ space, isSpace c = true)
    (h : ¬ ['*', '/'] <:+: body) {line : List Char} (hline : trim line = []) :
    uncomment false (trim (space ++ '/' :: '*' :: (body ++ '*' :: '/' :: line))) =
      (false, none) := by
  have hend := afterFirst?_append h (trimEnd line)
  have hstart : after? ['/', '*'] ('/' :: '*' :: (body ++ '*' :: '/' :: trimEnd line)) =
      some (body ++ '*' :: '/' :: trimEnd line) := after?_eq_some_iff.2 rfl
  rw [trim_signs hspace (by decide) (by decide), trimEnd_closing]
  simp [uncomment, hstart, hend, trim_trimEnd, hline]

/-! ## The text behind a comment -/

section Step

variable {isOpen isOpen' : Open} {raw line : List Char} {more : List (List Char)}

theorem importsOf_none (h : uncomment isOpen (trim raw) = (isOpen', none)) :
    importsOf dialect isOpen (raw :: more) = importsOf dialect isOpen' more := by
  rw [importsOf, h]

theorem importsOf_congr {isOpen₁ isOpen₂ : Open} {raw₁ raw₂ : List Char}
    (h : uncomment isOpen₁ (trim raw₁) = uncomment isOpen₂ (trim raw₂)) :
    importsOf dialect isOpen₁ (raw₁ :: more) = importsOf dialect isOpen₂ (raw₂ :: more) := by
  rw [importsOf, importsOf, h]

end Step

/-- The first line of a text. -/
def firstLine (text : List Char) : List Char := (lines text).headD []

theorem importsOf_firstLine (isOpen : Open) (text : List Char) :
    importsOf dialect isOpen (firstLine text :: (lines text).tail) =
      importsOf dialect isOpen (lines text) := by
  rw [firstLine]
  cases lines text with
  | nil => exact importsOf_blank rfl []
  | cons line more => rfl

/-- Behind the end of an open comment, a text is scanned as if it stood alone: by induction on the
text of the comment, no line of which holds the end but the last one. -/
theorem importsOf_open {body : List Char} (h : ¬ ['*', '/'] <:+: body) (text : List Char) :
    importsOf dialect true (lines (body ++ '*' :: '/' :: text)) =
      importsOf dialect false (lines text) := by
  rcases lines_cases body with hplain | ⟨line, tail, hfirst⟩
  · have hone : OneLine (body ++ ['*', '/']) := oneLine_append.2 ⟨hplain, by decide⟩
    have hlines := lines_append_headD hone (by simp) text
    rw [List.append_assoc, List.append_assoc] at hlines
    rw [← importsOf_firstLine false text]
    refine (congrArg (importsOf dialect true) hlines).trans ?_
    by_cases hblank : trim (firstLine text) = []
    · rw [importsOf_blank hblank]
      exact importsOf_none (uncomment_closing_blank h hblank)
    · exact importsOf_congr (uncomment_closing h hblank)
  · have hline : ¬ ['*', '/'] <:+: trim line := fun hin =>
      h (hin.trans ((trim_infix_self line).trans hfirst.starts.isInfix))
    have htail : ¬ ['*', '/'] <:+: tail := fun hin => h (hin.trans hfirst.ends.isInfix)
    rw [hfirst.lines_eq ('*' :: '/' :: text) (by simp), importsOf_none (uncomment_open hline)]
    exact importsOf_open htail text
termination_by body.length
decreasing_by exact hfirst.shorter

section Comment

variable (hspace : ∀ c ∈ space, isSpace c = true) (hone : OneLine space)
  (h : ¬ ['*', '/'] <:+: body) (text : List Char)

include hone

/-- The line on which a comment opens and ends, with what follows it. -/
theorem lines_shortComment (hbody : OneLine body) :
    lines (space ++ '/' :: '*' :: (body ++ '*' :: '/' :: text)) =
      (space ++ '/' :: '*' :: (body ++ '*' :: '/' :: firstLine text)) :: (lines text).tail := by
  have hall : OneLine (space ++ ['/', '*'] ++ (body ++ ['*', '/'])) := by
    simp only [oneLine_append, hone, hbody]
    decide
  have hlines := lines_append_headD hall (by simp) text
  simpa [firstLine] using hlines

include hspace h

/-- A comment that ends on a later line. -/
theorem importsOf_longComment (hbody : ¬ OneLine body) :
    importsOf dialect false (lines (space ++ '/' :: '*' :: (body ++ '*' :: '/' :: text))) =
      importsOf dialect false (lines text) := by
  obtain ⟨line, tail, hfirst⟩ := (lines_cases body).resolve_left hbody
  have hopen : OneLine (space ++ ['/', '*']) := oneLine_append.2 ⟨hone, by decide⟩
  have hlines := lines_append hopen (hfirst.lines_eq ('*' :: '/' :: text) (by simp))
  have hline : ¬ ['*', '/'] <:+: trimEnd line := fun hin =>
    h (hin.trans ((trimEnd_prefix_self line).isInfix.trans hfirst.starts.isInfix))
  have htail : ¬ ['*', '/'] <:+: tail := fun hin => h (hin.trans hfirst.ends.isInfix)
  have hopened := uncomment_opened hline
  rw [← trim_signs hspace (by decide) (by decide)] at hopened
  simp only [List.append_assoc, List.cons_append, List.nil_append] at hlines
  rw [hlines, importsOf_none hopened]
  exact importsOf_open htail text

/-- A comment that ends on the line on which it was opened, where no other one opens behind it. -/
theorem importsOf_shortComment (hbody : OneLine body)
    (htext : ¬ ['/', '*'] <+: trim (firstLine text)) :
    importsOf dialect false (lines (space ++ '/' :: '*' :: (body ++ '*' :: '/' :: text))) =
      importsOf dialect false (lines text) := by
  rw [lines_shortComment hone text hbody, ← importsOf_firstLine false text]
  by_cases hblank : trim (firstLine text) = []
  · rw [importsOf_blank hblank]
    exact importsOf_none (uncomment_opened_closed_blank hspace h hblank)
  · refine importsOf_congr ?_
    rw [uncomment_opened_closed hspace h hblank, uncomment_of_no_comment htext]

theorem importsOf_comment (htext : ¬ OneLine body ∨ ¬ ['/', '*'] <+: trim (firstLine text)) :
    importsOf dialect false (lines (space ++ '/' :: '*' :: (body ++ '*' :: '/' :: text))) =
      importsOf dialect false (lines text) := by
  by_cases hbody : OneLine body
  · exact importsOf_shortComment hspace hone h text hbody (htext.resolve_left (not_not_intro hbody))
  · exact importsOf_longComment hspace hone h text hbody

/-- Behind a comment that ends on its line, another one is taken for code, and ends the header. -/
theorem importsOf_secondComment (hbody : OneLine body)
    (htext : ['/', '*'] <+: trim (firstLine text)) :
    importsOf .standard false (lines (space ++ '/' :: '*' :: (body ++ '*' :: '/' :: text))) =
      [] := by
  obtain ⟨rest, hrest⟩ := htext
  have hne : trim (firstLine text) ≠ [] := by
    rw [← hrest]
    exact List.cons_ne_nil _ _
  have hread : readLine .standard (trim (firstLine text)) = .ended := by
    rw [← hrest]
    rfl
  rw [lines_shortComment hone text hbody, importsOf,
    uncomment_opened_closed hspace h hne]
  simp only [hread]

end Comment

end Header

end Vetting
