import Vetting.Proofs.Sweep.Region

/-!
# Vetting.Proofs.Sweep.Cut

Where a text can be cut without the sweep noticing. A step looks at most one character ahead, so
the sweep over a text and more is the sweep over the text and then over the rest, unless its last
step on the text takes the next character along.

* `Takes`: how a step at the last character of a text takes the next one along.
* `step_append`: any other step is the same with the rest behind it.
* `run_append_of_not_joins`: so is the sweep, where its last step does not go across the cut.
-/

namespace Vetting

theorem isIdentifierPart_of_isIdentifierStart {c : Char} (h : isIdentifierStart c = true) :
    isIdentifierPart c = true := by
  simp only [isIdentifierStart, isIdentifierPart, Bool.or_eq_true] at h ⊢
  refine h.imp_left fun hletter => ?_
  simp only [isLetter, isLetterOrNumber] at hletter ⊢
  split
  · rename_i hascii
    rw [if_pos hascii] at hletter
    simp [Char.isAlphanum, hletter]
  · rename_i hascii
    rw [if_neg hascii] at hletter
    simp [hletter]

theorem isIdentifierStart_of_not_part {c : Char} (h : isIdentifierPart c = false) :
    isIdentifierStart c = false := by
  cases hc : isIdentifierStart c with
  | false => rfl
  | true => exact absurd (isIdentifierPart_of_isIdentifierStart hc) (by simp [h])

theorem takeWhile_append_of_neg {p : Char → Bool} {c : Char} (h : p c = false)
    (front back : List Char) : (front ++ c :: back).takeWhile p = front.takeWhile p := by
  induction front with
  | nil => simp [h]
  | cons d front ih =>
    rw [List.cons_append, List.takeWhile_cons, List.takeWhile_cons, ih]

theorem dropWhile_append_of_neg {p : Char → Bool} {c : Char} (h : p c = false)
    (front back : List Char) :
    (front ++ c :: back).dropWhile p = front.dropWhile p ++ c :: back := by
  induction front with
  | nil => simp [h]
  | cons d front ih =>
    rw [List.cons_append, List.dropWhile_cons, List.dropWhile_cons, ih]
    split <;> rfl

namespace Sweep

variable {dialect : Dialect} {c : Char}

/-- A step at `d`, where a text ends, takes along the character `c` behind the text. An identifier
that goes on behind the text is not among the cases. -/
def Takes (dialect : Dialect) : Region → (d c : Char) → Prop
  | .code, d, c =>
    d = '/' ∧ c = '/' ∨ d = '/' ∧ c = '*' ∨ isMark dialect.rawStringMark d = true ∧ c = '"'
  | .lineComment, _, _ => False
  | .blockComment, d, c => d = '*' ∧ c = '/'
  | .string, d, _ => d = '\\'
  | .character, d, _ => d = '\\'
  | .rawString, d, c => d = '"' ∧ c = '"'

/-- What a step finds, with more text behind what it leaves. -/
def Step.append (found : Step) (back : List Char) : Step :=
  { found with rest := found.rest ++ back }

/-- A look at the next character does not go across the cut. -/
theorem head?_append_iff {front : List Char} {P : Prop} {mark : Char}
    (hcut : front = [] → ¬ (P ∧ c = mark)) (back : List Char) :
    (P ∧ (front ++ c :: back).head? = some mark) ↔ (P ∧ front.head? = some mark) := by
  cases front with
  | nil => simpa using hcut rfl
  | cons e front => simp

theorem tail_append {front : List Char} {d : Char} (h : front.head? = some d) (back : List Char) :
    (front ++ back).tail = front.tail ++ back := by
  obtain ⟨rest, rfl⟩ := List.head?_eq_some_iff.1 h
  rfl

theorem identifierFrom_append (hpart : isIdentifierPart c = false) (d : Char)
    (front back : List Char) :
    identifierFrom d (front ++ c :: back) = (identifierFrom d front).append (c :: back) := by
  simp only [identifierFrom, Step.append, takeWhile_append_of_neg hpart,
    dropWhile_append_of_neg hpart]

theorem codeStep_append (hpart : isIdentifierPart c = false) {d : Char} {front : List Char}
    (hcut : front = [] → ¬ Takes dialect .code d c) (back : List Char) :
    codeStep dialect d (front ++ c :: back) = (codeStep dialect d front).append (c :: back) := by
  have hslash := head?_append_iff (fun hnil h => hcut hnil (.inl h)) back
  have hstar := head?_append_iff (fun hnil h => hcut hnil (.inr (.inl h))) back
  have hquote := head?_append_iff (fun hnil h => hcut hnil (.inr (.inr h))) back
  simp only [codeStep, hslash, hstar, hquote]
  by_cases hline : d = '/' ∧ front.head? = some '/'
  · rw [if_pos hline, if_pos hline, tail_append hline.2]
    rfl
  rw [if_neg hline, if_neg hline]
  by_cases hblock : d = '/' ∧ front.head? = some '*'
  · rw [if_pos hblock, if_pos hblock, tail_append hblock.2]
    rfl
  rw [if_neg hblock, if_neg hblock]
  by_cases hraw : isMark dialect.rawStringMark d = true ∧ front.head? = some '"'
  · rw [if_pos hraw, if_pos hraw, tail_append hraw.2]
    rfl
  rw [if_neg hraw, if_neg hraw]
  by_cases hstring : d = '"'
  · rw [if_pos hstring, if_pos hstring]
    rfl
  rw [if_neg hstring, if_neg hstring]
  by_cases hcharacter : d = '\''
  · rw [if_pos hcharacter, if_pos hcharacter]
    rfl
  rw [if_neg hcharacter, if_neg hcharacter]
  -- Behind an escape mark what starts no identifier is as good as the end of the text.
  have plain : ∀ front : List Char, (if isIdentifierStart d = true then
      identifierFrom d (front ++ c :: back) else ⟨.code, none, front ++ c :: back⟩) =
        (if isIdentifierStart d = true then identifierFrom d front
          else ⟨.code, none, front⟩).append (c :: back) := by
    intro front
    split
    · exact identifierFrom_append hpart d front back
    · rfl
  cases isMark dialect.escapeMark d with
  | false => exact plain front
  | true =>
    cases front with
    | nil =>
      simp only [List.nil_append, isIdentifierStart_of_not_part hpart]
      exact plain []
    | cons e front =>
      simp only [List.cons_append]
      split
      · exact identifierFrom_append hpart e front back
      · exact plain (e :: front)

/-- A step that does not take the next character along is the same whatever follows the text. -/
theorem step_append (hpart : isIdentifierPart c = false) {region : Region} {d : Char}
    {front : List Char} (hcut : front = [] → ¬ Takes dialect region d c) (back : List Char) :
    step dialect region d (front ++ c :: back) =
      (step dialect region d front).append (c :: back) := by
  have literal : ∀ (inside : Region) (quote : Char), (front = [] → d ≠ '\\') →
      literalStep inside quote d (front ++ c :: back) =
        (literalStep inside quote d front).append (c :: back) := by
    intro inside quote hcut
    simp only [literalStep]
    split
    · rename_i hd
      obtain ⟨e, front, rfl⟩ := List.exists_cons_of_ne_nil fun hnil => hcut hnil hd
      rfl
    · split <;> rfl
  cases region with
  | code => exact codeStep_append hpart hcut back
  | lineComment => rfl
  | string => exact literal _ _ hcut
  | character => exact literal _ _ hcut
  | blockComment =>
    simp only [step, head?_append_iff hcut back]
    split
    · rename_i hd
      rw [tail_append hd.2]
      rfl
    · rfl
  | rawString =>
    simp only [step, head?_append_iff hcut back]
    split
    · rename_i hd
      rw [tail_append hd.2]
      rfl
    · split <;> rfl

/-- The sweep over a text goes across its end: the last step takes along the character `c` behind
the text, and not just as one more character of a literal. -/
inductive Joins (dialect : Dialect) (c : Char) : Region → List Char → Prop where
  | last {region : Region} {d : Char} : Takes dialect region d c →
      (region = .string ∨ region = .character → ¬ region.Holds [c]) → Joins dialect c region [d]
  | later {region : Region} {d : Char} {more : List Char} :
      Joins dialect c (step dialect region d more).region (step dialect region d more).rest →
      Joins dialect c region (d :: more)

/-- A backslash at the end of a literal's text takes a character along that the literal would have
passed over anyway. -/
theorem run_cut_append (dialect : Dialect) {region : Region}
    (hregion : region = .string ∨ region = .character) (h : region.Holds [c]) (back : List Char) :
    run dialect region ('\\' :: c :: back) = run dialect region (c :: back) ∧
      run dialect region ['\\'] = (region, []) := by
  have hpair : step dialect region '\\' (c :: back) = ⟨region, none, back⟩ := by
    rcases hregion with rfl | rfl <;> rfl
  have hlast : step dialect region '\\' [] = ⟨region, none, []⟩ := by
    rcases hregion with rfl | rfl <;> rfl
  have hplain : run dialect region ([c] ++ back) = run dialect region back :=
    run_of_holds h (by rcases hregion with rfl | rfl <;> exact nofun)
  rw [run_of_step hpair, run_of_step hlast, run_nil, ← hplain]
  exact ⟨rfl, rfl⟩

/-- The sweep over a text, and then over what follows, where it does not go across the cut. -/
theorem run_append_of_not_joins (hpart : isIdentifierPart c = false) {region : Region}
    {front : List Char} (h : ¬ Joins dialect c region front) (back : List Char) :
    run dialect region (front ++ c :: back) =
      ((run dialect (run dialect region front).1 (c :: back)).1,
        (run dialect region front).2 ++
          (run dialect (run dialect region front).1 (c :: back)).2) := by
  induction hlen : front.length using Nat.strongRecOn generalizing region front with
  | ind n ih =>
    cases front with
    | nil => simp
    | cons d front =>
      by_cases hcut : front = [] ∧ Takes dialect region d c
      · obtain ⟨rfl, htakes⟩ := hcut
        have hliteral : (region = .string ∨ region = .character) ∧ region.Holds [c] :=
          Classical.not_not.1 fun hnot =>
            h (.last htakes fun hregion hholds => hnot ⟨hregion, hholds⟩)
        obtain rfl : d = '\\' := by
          rcases hliteral.1 with rfl | rfl <;> exact htakes
        obtain ⟨hpair, hlast⟩ := run_cut_append dialect hliteral.1 hliteral.2 back
        rw [List.cons_append, List.nil_append, hpair, hlast]
        rfl
      · have hstep := step_append hpart (fun hnil htakes => hcut ⟨hnil, htakes⟩) back
        have hle := length_step_le dialect region d front
        rw [List.length_cons] at hlen
        rw [List.cons_append, run_cons region d (front ++ c :: back), hstep,
          run_cons region d front]
        simp only [Step.append]
        rw [ih _ (by omega) (fun hjoins => h (.later hjoins)) rfl]
        simp only [List.append_assoc]

end Sweep

end Vetting
