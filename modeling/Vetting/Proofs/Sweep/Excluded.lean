import Vetting.Proofs.Sweep.Append

/-!
# Vetting.Proofs.Sweep.Excluded

Text without code between two texts of code. What opens a comment or a literal may be taken together
with the end of the text before it; where it is not, the comment or literal hides nothing of the two
texts and shows nothing of its own, whatever it holds.

* `Joins.of_code`: how a text that ends in code can go on in the text behind it.
* `names_append_excluded`: the identifiers of the whole are those of the two texts.
-/

namespace Vetting

namespace Sweep

variable {dialect : Dialect} {c : Char}

theorem codeStep_suffix (dialect : Dialect) (c : Char) (rest : List Char) :
    (codeStep dialect c rest).rest <:+ rest := by
  simp only [codeStep]
  repeat' split
  all_goals first
    | exact List.tail_suffix _
    | exact List.suffix_rfl
    | exact List.dropWhile_suffix _
    | exact (List.dropWhile_suffix _).trans (List.suffix_cons _ _)

theorem literalStep_suffix (inside : Region) (quote c : Char) (rest : List Char) :
    (literalStep inside quote c rest).rest <:+ rest := by
  simp only [literalStep]
  split
  · exact List.tail_suffix _
  · split <;> exact List.suffix_rfl

/-- What a step leaves is the end of what it was given. -/
theorem step_suffix (dialect : Dialect) (region : Region) (c : Char) (rest : List Char) :
    (step dialect region c rest).rest <:+ rest := by
  cases region with
  | code => exact codeStep_suffix dialect c rest
  | lineComment => exact List.suffix_rfl
  | blockComment =>
    simp only [step]
    split
    · exact List.tail_suffix _
    · exact List.suffix_rfl
  | string => exact literalStep_suffix _ _ _ _
  | character => exact literalStep_suffix _ _ _ _
  | rawString =>
    simp only [step]
    split
    · exact List.tail_suffix _
    · split <;> exact List.suffix_rfl

theorem rest_of_takes {region : Region} {d : Char} (h : Takes dialect region d c) :
    (step dialect region d [c]).rest = [] := by
  cases region with
  | code =>
    rcases h with ⟨rfl, rfl⟩ | ⟨rfl, rfl⟩ | ⟨hmark, rfl⟩
    · simp [step, codeStep]
    · simp [step, codeStep]
    · simp [step, codeStep, hmark]
  | lineComment => exact h.elim
  | blockComment => simp [step, h.1, h.2]
  | string => simp [step, literalStep, show d = '\\' from h]
  | character => simp [step, literalStep, show d = '\\' from h]
  | rawString => simp [step, h.1, h.2]

/-- A text whose last character is a quote that the sweep reads inside a raw string. -/
def ClosesRaw (dialect : Dialect) (region : Region) (text : List Char) : Prop :=
  ∃ front, text = front ++ ['"'] ∧ (run dialect region front).1 = .rawString

/-- A step does not see the quote at the end of the text that it leaves. -/
theorem ClosesRaw.of_step {region : Region} {d : Char} {more : List Char}
    (h : ClosesRaw dialect (step dialect region d more).region (step dialect region d more).rest) :
    ClosesRaw dialect region (d :: more) := by
  obtain ⟨front, hrest, hraw⟩ := h
  obtain ⟨taken, hmore⟩ := step_suffix dialect region d more
  rw [hrest, ← List.append_assoc] at hmore
  have hcut : taken ++ front = [] → ¬ Takes dialect region d '"' := by
    intro hnil htakes
    rw [hnil, List.nil_append] at hmore
    rw [← hmore, rest_of_takes htakes] at hrest
    simp at hrest
  have hstep := step_append (by decide) hcut []
  rw [hmore] at hstep
  rw [hstep] at hrest hraw
  refine ⟨d :: (taken ++ front), by rw [← hmore]; rfl, ?_⟩
  rw [run_cons, ← hraw]
  simp only [Step.append]
  rw [List.append_cancel_right hrest]

/-- A text that ends in code goes on in what follows it only where it ends in a slash before a
comment, or before a quote in the mark of raw strings or the quote that closes one. -/
theorem Joins.of_code {region : Region} {front : List Char} (h : Joins .standard c region front)
    (hcode : (run .standard region front).1 = .code) :
    front.getLast? = some '/' ∧ (c = '/' ∨ c = '*') ∨
      c = '"' ∧ (front.getLast? = some '@' ∨ ClosesRaw .standard region front) := by
  induction h with
  | @last region d htakes _ =>
    cases region with
    | code =>
      rcases htakes with ⟨rfl, hc⟩ | ⟨rfl, hc⟩ | ⟨hmark, hc⟩
      · exact .inl ⟨rfl, .inl hc⟩
      · exact .inl ⟨rfl, .inr hc⟩
      · obtain rfl : '@' = d := by simpa [isMark, Dialect.standard] using hmark
        exact .inr ⟨hc, .inl rfl⟩
    | lineComment => exact htakes.elim
    | rawString =>
      obtain ⟨rfl, hc⟩ := htakes
      exact .inr ⟨hc, .inr ⟨[], rfl, by rw [run_nil]⟩⟩
    -- In the other regions the step that takes `c` along stays inside the region.
    | blockComment =>
      obtain ⟨rfl, -⟩ := htakes
      simp [run_cons, step] at hcode
    | string =>
      obtain rfl : d = '\\' := htakes
      simp [run_cons, step, literalStep] at hcode
    | character =>
      obtain rfl : d = '\\' := htakes
      simp [run_cons, step, literalStep] at hcode
  | @later region d more _ ih =>
    rw [run_cons] at hcode
    obtain ⟨taken, hmore⟩ := step_suffix .standard region d more
    have hlast : ∀ mark, (step .standard region d more).rest.getLast? = some mark →
        (d :: more).getLast? = some mark := by
      intro mark hmark
      rw [← hmore, ← List.cons_append, List.getLast?_append, hmark]
      rfl
    rcases ih hcode with ⟨hslash, hc⟩ | ⟨hc, hmark | hraw⟩
    · exact .inl ⟨hlast '/' hslash, hc⟩
    · exact .inr ⟨hc, .inl (hlast '@' hmark)⟩
    · exact .inr ⟨hc, .inr hraw.of_step⟩

end Sweep

/-! ## Comments and literals between two texts -/

/-- A comment or a literal that is closed, as it is written before `after`: the region that it is,
and its text. -/
inductive Excluded (after : List Char) : Region → List Char → Prop where
  | lineComment {body : List Char} : '\n' ∉ body →
      Excluded after .lineComment ('/' :: '/' :: (body ++ ['\n']))
  | blockComment {body : List Char} : ¬ ['*', '/'] <:+: body →
      Excluded after .blockComment ('/' :: '*' :: (body ++ ['*', '/']))
  | string {body : List Char} : Escaped '"' body →
      Excluded after .string ('"' :: (body ++ ['"']))
  | character {body : List Char} : Escaped '\'' body →
      Excluded after .character ('\'' :: (body ++ ['\'']))
  | rawString {body : List Char} : Paired body → after.head? ≠ some '"' →
      Excluded after .rawString ('@' :: '"' :: (body ++ ['"']))

namespace Excluded

variable {after text : List Char} {region : Region}

/-- The sweep finds nothing in the text, and goes on behind it as in code. -/
theorem run_append (h : Excluded after region text) :
    (Sweep.run .standard .code (text ++ after)).2 = (Sweep.run .standard .code after).2 := by
  cases h with
  | @lineComment body hbody =>
    have hs : Sweep.step .standard .code '/' ('/' :: (body ++ ['\n'] ++ after)) =
        ⟨.lineComment, none, body ++ ['\n'] ++ after⟩ := by
      simp [Sweep.step, Sweep.codeStep]
    rw [List.cons_append, List.cons_append, Sweep.run_of_step hs]
    exact Sweep.run_region hbody .newline
  | @blockComment body hbody =>
    have hs : Sweep.step .standard .code '/' ('*' :: (body ++ ['*', '/'] ++ after)) =
        ⟨.blockComment, none, body ++ ['*', '/'] ++ after⟩ := by
      simp [Sweep.step, Sweep.codeStep]
    rw [List.cons_append, List.cons_append, Sweep.run_of_step hs]
    exact Sweep.run_region hbody .comment
  | @string body hbody =>
    have hs : Sweep.step .standard .code '"' (body ++ ['"'] ++ after) =
        ⟨.string, none, body ++ ['"'] ++ after⟩ := by
      simp [Sweep.step, Sweep.codeStep, Sweep.isMark, Dialect.standard]
    rw [List.cons_append, Sweep.run_of_step hs]
    exact Sweep.run_region hbody .quote
  | @character body hbody =>
    have hs : Sweep.step .standard .code '\'' (body ++ ['\''] ++ after) =
        ⟨.character, none, body ++ ['\''] ++ after⟩ := by
      simp [Sweep.step, Sweep.codeStep, Sweep.isMark, Dialect.standard]
    rw [List.cons_append, Sweep.run_of_step hs]
    exact Sweep.run_region hbody .apostrophe
  | @rawString body hbody hafter =>
    have hs : Sweep.step .standard .code '@' ('"' :: (body ++ ['"'] ++ after)) =
        ⟨.rawString, none, body ++ ['"'] ++ after⟩ := by
      simp [Sweep.step, Sweep.codeStep, Sweep.isMark, Dialect.standard]
    rw [List.cons_append, List.cons_append, Sweep.run_of_step hs]
    exact Sweep.run_region hbody (.rawQuote hafter)

/-- A region opens with its own characters; which of them stands first is what the text before it
is up against. -/
theorem opening (h : Excluded after region text) :
    ∃ c rest, text = c :: rest ∧ isIdentifierPart c = false ∧
      ((region = .lineComment ∨ region = .blockComment) ∧ c = '/' ∨
        region = .string ∧ c = '"' ∨ c = '\'' ∨ c = '@') := by
  cases h with
  | lineComment _ => exact ⟨_, _, rfl, by decide, .inl ⟨.inl rfl, rfl⟩⟩
  | blockComment _ => exact ⟨_, _, rfl, by decide, .inl ⟨.inr rfl, rfl⟩⟩
  | string _ => exact ⟨_, _, rfl, by decide, .inr (.inl ⟨rfl, rfl⟩)⟩
  | character _ => exact ⟨_, _, rfl, by decide, .inr (.inr (.inl rfl))⟩
  | rawString _ _ => exact ⟨_, _, rfl, by decide, .inr (.inr (.inr rfl))⟩

/-- The whole sweep, where the text before the region ends in code and does not take the first
character of the region along. -/
theorem all_append {before : List Char} (h : Excluded after region text)
    (hbefore : Identifier.lastRegion .standard before = .code)
    (hslash : region = .lineComment ∨ region = .blockComment → before.getLast? ≠ some '/')
    (hmark : region = .string → before.getLast? ≠ some '@')
    (hraw : region = .string → ¬ Sweep.ClosesRaw .standard .code before) :
    Identifier.all .standard (before ++ (text ++ after)) =
      Identifier.all .standard before ++ Identifier.all .standard after := by
  obtain ⟨c, rest, rfl, hpart, hopening⟩ := h.opening
  have hcut : ¬ Sweep.Joins .standard c .code before := by
    intro hjoins
    rcases hjoins.of_code hbefore with ⟨hlast, hc⟩ | ⟨rfl, hlast⟩
    · rcases hopening with ⟨hcomment, -⟩ | ⟨-, rfl⟩ | rfl | rfl
      · exact hslash hcomment hlast
      all_goals exact absurd hc (by decide)
    · rcases hopening with ⟨-, hc⟩ | ⟨hstring, -⟩ | hc | hc
      · exact absurd hc (by decide)
      · exact hlast.elim (hmark hstring) (hraw hstring)
      all_goals exact absurd hc (by decide)
  have hrun := h.run_append
  simp only [Identifier.lastRegion, Identifier.all] at hbefore ⊢
  rw [List.cons_append] at hrun ⊢
  rw [Sweep.run_append_of_not_joins hpart hcut, hbefore, hrun]

end Excluded

namespace Identifier

/-- A closed comment or literal between two texts, the first of which ends in code and cannot be
read into it: it hides no identifier of theirs and adds none. -/
theorem names_append_excluded {before after : String} {region : Region} {text : List Char}
    (hbefore : lastRegion .standard before.toList = .code)
    (htext : Excluded after.toList region text)
    (hslash : region = .lineComment ∨ region = .blockComment → before.toList.getLast? ≠ some '/')
    (hmark : region = .string → before.toList.getLast? ≠ some '@')
    (hraw : region = .string → ¬ Sweep.ClosesRaw .standard .code before.toList) (name : String) :
    name ∈ names .standard (before ++ String.ofList text ++ after) ↔
      name ∈ names .standard before ∨ name ∈ names .standard after := by
  have hall := htext.all_append hbefore hslash hmark hraw
  simp only [mem_names, String.toList_append, String.toList_ofList, List.append_assoc, hall,
    List.mem_append]

/-- Between two quotes that close a raw string and open a plain one nothing tells them from a
doubled quote: in `@""` and then `"\"x"` the name is code. -/
theorem names_append_string_of_closesRaw :
    ¬ ∀ (before after : String) (region : Region) (text : List Char),
      lastRegion .standard before.toList = .code → Excluded after.toList region text →
      (region = .lineComment ∨ region = .blockComment → before.toList.getLast? ≠ some '/') →
      (region = .string → before.toList.getLast? ≠ some '@') → ∀ name,
        name ∈ names .standard (before ++ String.ofList text ++ after) ↔
          name ∈ names .standard before ∨ name ∈ names .standard after := by
  intro h
  have htext : Excluded "".toList .string ('"' :: (['\\', '"', 'x'] ++ ['"'])) :=
    .string (.pair (.plain (by decide) (by decide) .nil))
  have hx := h "@\"\"" "" .string _ (by decide +kernel) htext (by decide) (by decide) "x"
  have hwhole : names .standard ("@\"\"" ++
      String.ofList ('"' :: (['\\', '"', 'x'] ++ ['"'])) ++ "") = ["x"] := by decide +kernel
  have hbefore : names .standard "@\"\"" = [] := by decide +kernel
  have hafter : names .standard "" = [] := by decide +kernel
  rw [hwhole, hbefore, hafter] at hx
  simp at hx

/-- A raw string with a doubled quote, behind a mark that is not its own. -/
theorem names_append_raw_string :
    lastRegion .standard "a @".toList = .code ∧
      Excluded "; d".toList .rawString ('@' :: '"' :: ("b \"\" c".toList ++ ['"'])) ∧
      ∀ name, name ∈ names .standard
          ("a @" ++ String.ofList ('@' :: '"' :: ("b \"\" c".toList ++ ['"'])) ++ "; d") ↔
        name ∈ names .standard "a @" ∨ name ∈ names .standard "; d" := by
  have hbefore : lastRegion .standard "a @".toList = .code := by decide +kernel
  have hbody : Paired "b \"\" c".toList :=
    .plain (by decide) (.plain (by decide) (.pair (.plain (by decide) (.plain (by decide) .nil))))
  have htext : Excluded "; d".toList .rawString _ := .rawString hbody (by decide)
  exact ⟨hbefore, htext, names_append_excluded hbefore htext nofun nofun nofun⟩

end Identifier

end Vetting
