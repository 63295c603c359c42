import Vetting.Proofs.Sweep.Excluded
import Vetting.Proofs.Text.Line

/-!
# Vetting.Proofs.Sweep.LineComment

Where a line comment ends. A text is cut into lines at eleven marks, but for the sweep a line
comment ends at the first line feed behind it: behind any other mark it goes on, up to the next
line feed.

* `lines_append_lineEnd`: each of the marks ends a line.
* `all_lineComment`: what the sweep finds behind a comment, whatever ends its line.
* `names_append_lineComment_iff`: the two cuts show the same names exactly when the mark ends with a
  line feed, or when the rest of that line names nothing new.
-/

namespace Vetting

namespace Text

/-- What ends a line where a text is cut into lines. -/
inductive LineEnd : List Char → Prop where
  | mark {c : Char} : isLineBreak c = true → LineEnd [c]
  | pair : LineEnd ['\r', '\n']

/-- A carriage return and a line feed behind it are one mark. -/
theorem lines_append_lineEnd {line ending rest : List Char} (hline : OneLine line)
    (hending : LineEnd ending) (hrest : rest.head? ≠ some '\n') :
    lines (line ++ (ending ++ rest)) = line :: lines rest := by
  have hcut : lines (ending ++ rest) = [] :: lines rest := by
    cases hending with
    | mark hbreak => exact lines_cons_of_break hbreak fun _ => hrest
    | pair => rw [List.cons_append, List.cons_append, lines.eq_2, List.nil_append]
  rw [lines_append hline hcut, List.append_nil]

/-- A line ends with a line feed, or there is none in the mark that ends it. -/
theorem LineEnd.exists_newline {ending : List Char} (h : LineEnd ending) :
    (∃ front, ending = front ++ ['\n'] ∧ '\n' ∉ front) ∨ '\n' ∉ ending := by
  cases h with
  | @mark c hbreak =>
    by_cases hc : c = '\n'
    · exact .inl ⟨[], by rw [hc]; rfl, by simp⟩
    · exact .inr (by simpa using Ne.symm hc)
  | pair => exact .inl ⟨['\r'], rfl, by decide⟩

/-- What stands behind the first line feed of a text. -/
def behindNewline (text : List Char) : List Char := (text.dropWhile (· != '\n')).tail

end Text

namespace Sweep

/-- A line comment ends at the first line feed, and with the text where there is none. -/
theorem run_lineComment_eq (text : List Char) :
    (run .standard .lineComment text).2 = (run .standard .code (Text.behindNewline text)).2 := by
  have hbody : '\n' ∉ text.takeWhile (· != '\n') := by
    intro hmem
    have hall := List.all_eq_true.1 List.all_takeWhile _ hmem
    simp at hall
  have hsplit : run .standard .lineComment
      (text.takeWhile (· != '\n') ++ text.dropWhile (· != '\n')) =
        run .standard .lineComment (text.dropWhile (· != '\n')) := run_lineComment hbody _
  rw [List.takeWhile_append_dropWhile] at hsplit
  rw [hsplit, Text.behindNewline]
  cases htail : text.dropWhile (· != '\n') with
  | nil => simp
  | cons c rest =>
    have hc : c = '\n' := by
      have hneg := List.head?_dropWhile_not (· != '\n') text
      rw [htail] at hneg
      simpa using hneg
    subst hc
    exact run_of_ends .newline

end Sweep

namespace Identifier

open Text

/-- A line comment that the text before it is not read into. -/
theorem all_lineComment {before : List Char} (hbefore : lastRegion .standard before = .code)
    (hslash : before.getLast? ≠ some '/') (text : List Char) :
    all .standard (before ++ '/' :: '/' :: text) =
      all .standard before ++ (Sweep.run .standard .lineComment text).2 := by
  have hcut : ¬ Sweep.Joins .standard '/' .code before := by
    intro hjoins
    rcases hjoins.of_code hbefore with ⟨hlast, -⟩ | ⟨hquote, -⟩
    · exact hslash hlast
    · exact absurd hquote (by decide)
  have hopen : Sweep.step .standard .code '/' ('/' :: text) = ⟨.lineComment, none, text⟩ := by
    simp [Sweep.step, Sweep.codeStep]
  simp only [all, lastRegion] at hbefore ⊢
  rw [Sweep.run_append_of_not_joins (by decide) hcut, hbefore, Sweep.run_of_step hopen]

/-- A comment and what ends its line, before more text. -/
theorem run_lineComment_lineEnd {body ending : List Char} (hbody : OneLine body)
    (hending : LineEnd ending) (after : List Char) :
    (Sweep.run .standard .lineComment (body ++ (ending ++ after))).2 =
      all .standard (if ending.getLast? = some '\n' then after else behindNewline after) := by
  have hnewline : '\n' ∉ body := fun hmem => absurd (hbody _ hmem) (by decide)
  rw [Sweep.run_lineComment hnewline]
  rcases hending.exists_newline with ⟨front, rfl, hfront⟩ | hnone
  · rw [if_pos (by simp)]
    exact Sweep.run_region hfront .newline
  · have hlast : ending.getLast? ≠ some '\n' := fun hlast => hnone (List.mem_of_getLast? hlast)
    rw [if_neg hlast, Sweep.run_lineComment hnone, Sweep.run_lineComment_eq]
    rfl

/-- A line comment between two texts, whatever mark ends its line. Where the text is cut into
lines the second text begins a new line; the sweep is in code at its start, and the comment hides
and adds nothing, exactly when the mark ends with a line feed, or else when the rest of that line
makes no difference to what the second text names. -/
theorem names_append_lineComment_iff {before body after : String} {ending : List Char}
    (hbefore : lastRegion .standard before.toList = .code)
    (hslash : before.toList.getLast? ≠ some '/') (hbody : OneLine body.toList)
    (hending : LineEnd ending) (hafter : after.toList.head? ≠ some '\n') :
    lines ("//" ++ body ++ String.ofList ending ++ after).toList =
        ("//" ++ body).toList :: lines after.toList ∧
      ((∀ name, name ∈ names .standard
            (before ++ "//" ++ body ++ String.ofList ending ++ after) ↔
          name ∈ names .standard before ∨ name ∈ names .standard after) ↔
        ending.getLast? = some '\n' ∨ ∀ name, name ∉ names .standard before →
          (name ∈ names .standard (String.ofList (behindNewline after.toList)) ↔
            name ∈ names .standard after)) := by
  have hline : OneLine ("//" ++ body).toList := by
    simpa using ⟨by decide, hbody⟩
  have hall : all .standard (before ++ "//" ++ body ++ String.ofList ending ++ after).toList =
      all .standard before.toList ++ all .standard
        (if ending.getLast? = some '\n' then after.toList else behindNewline after.toList) := by
    rw [← run_lineComment_lineEnd hbody hending, ← all_lineComment hbefore hslash]
    simp
  constructor
  · have hlines := lines_append_lineEnd hline hending hafter
    simpa using hlines
  · simp only [mem_names, hall, List.mem_append, String.toList_ofList]
    by_cases hlast : ending.getLast? = some '\n'
    · simp [hlast]
    · rw [if_neg hlast, or_iff_right hlast]
      refine forall_congr' fun name => ?_
      by_cases hname : name.toList ∈ all .standard before.toList <;> simp [hname]

/-- Behind a carriage return alone the comment goes on. -/
theorem names_append_lineComment_of_return :
    ¬ ∀ (before body after : String) (ending : List Char),
      lastRegion .standard before.toList = .code → before.toList.getLast? ≠ some '/' →
      OneLine body.toList → LineEnd ending → after.toList.head? ≠ some '\n' →
      ∀ name, name ∈ names .standard (before ++ "//" ++ body ++ String.ofList ending ++ after) ↔
        name ∈ names .standard before ∨ name ∈ names .standard after := by
  intro h
  have hx := h "" "" "x" ['\r'] (by decide +kernel) (by decide) (by decide) (.mark rfl) (by decide)
    "x"
  have hwhole : names .standard ("" ++ "//" ++ "" ++ String.ofList ['\r'] ++ "x") = [] := by
    decide +kernel
  have hafter : names .standard "x" = ["x"] := by decide +kernel
  rw [hwhole, hafter] at hx
  simp at hx

/-- A line separator ends the line of the comment, and the sweep goes on in the comment: of the
names behind it only those below the next line feed are found. -/
theorem names_append_lineComment_separator :
    lastRegion .standard "a;".toList = .code ∧ LineEnd ['\u2028'] ∧
      ¬ ∀ name, name ∈ names .standard
            ("a;" ++ "//" ++ "b 'c" ++ String.ofList ['\u2028'] ++ "d\ne") ↔
          name ∈ names .standard "a;" ∨ name ∈ names .standard "d\ne" := by
  have hbefore : lastRegion .standard "a;".toList = .code := by decide +kernel
  have hending : LineEnd ['\u2028'] := .mark (by decide)
  refine ⟨hbefore, hending, ?_⟩
  rw [(names_append_lineComment_iff hbefore (by decide) (by decide) hending (by decide)).2]
  rintro (hlast | hsame)
  · exact absurd hlast (by decide)
  · exact absurd (hsame "d" (by decide +kernel)) (by decide +kernel)

end Identifier

end Vetting
