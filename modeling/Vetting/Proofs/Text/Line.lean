import Mathlib.Data.List.DropRight
import Vetting.Text.Scan

/-!
# Vetting.Proofs.Text.Line

How a text falls into lines, what trimming leaves of a line, and where a comment on it ends.

* `lines_append_newline`: a line feed ends a line that holds no line break.
* `exists_lines_append`: the lines of two texts with a line feed between them.
* `lines_cases`: a text lies on one line, or its first line ends inside it.
* `trim_indented`: trimming takes the indentation of a line.
* `afterFirst?_append`: the end of a comment is found behind a text that does not hold it.
-/

namespace Vetting

/-- The code points of white space. -/
def spaceCodes : List Nat :=
  [9, 10, 11, 12, 13, 0x1C, 0x1D, 0x1E, 0x1F, 0x20, 0x85, 0xA0, 0x1680, 0x2000, 0x2001, 0x2002,
   0x2003, 0x2004, 0x2005, 0x2006, 0x2007, 0x2008, 0x2009, 0x200A, 0x2028, 0x2029, 0x202F, 0x205F,
   0x3000]

theorem mem_spaceCodes_of_isSpace {c : Char} (h : isSpace c = true) : c.toNat ∈ spaceCodes := by
  simp only [isSpace, isBlank, Bool.or_eq_true, Bool.and_eq_true, decide_eq_true_eq,
    beq_iff_eq] at h
  simp only [spaceCodes, List.mem_cons, List.not_mem_nil, or_false]
  omega

/-- White space is no part of a word. -/
theorem isWord_of_isSpace {c : Char} (h : isSpace c = true) : isWord c = false := by
  have hall : ∀ code ∈ spaceCodes, isWord (Char.ofNat code) = false := by decide +kernel
  have hword := hall _ (mem_spaceCodes_of_isSpace h)
  rwa [Char.ofNat_toNat] at hword

theorem isSpace_of_isWord {c : Char} (h : isWord c = true) : isSpace c = false := by
  cases hs : isSpace c with
  | false => rfl
  | true =>
    rw [isWord_of_isSpace hs] at h
    cases h

theorem isSpace_of_isLineBreak {c : Char} (h : isLineBreak c = true) : isSpace c = true := by
  simp only [isLineBreak, isSpace, isBlank, Bool.or_eq_true, Bool.and_eq_true, decide_eq_true_eq,
    beq_iff_eq] at h ⊢
  omega

theorem isLineBreak_of_isSpace {c : Char} (h : isSpace c = false) : isLineBreak c = false := by
  cases hb : isLineBreak c with
  | false => rfl
  | true =>
    rw [isSpace_of_isLineBreak hb] at h
    cases h

theorem isBlank_of_isSpace {c : Char} (h : isSpace c = false) : isBlank c = false := by
  cases hb : isBlank c with
  | false => rfl
  | true =>
    rw [isSpace_of_isBlank hb] at h
    cases h

namespace Text

theorem lines_cons_of_plain {c : Char} (h : isLineBreak c = false) (text : List Char) :
    lines (c :: text) =
      match lines text with
      | [] => [[c]]
      | line :: more => (c :: line) :: more := by
  have hc : c ≠ '\r' := by
    rintro rfl
    exact absurd h (by decide)
  rw [lines.eq_3 _ _ fun _ hr => absurd hr hc, h]
  rfl

theorem lines_cons_of_break {c : Char} (h : isLineBreak c = true) {text : List Char}
    (hpair : c = '\r' → text.head? ≠ some '\n') : lines (c :: text) = [] :: lines text := by
  rw [lines.eq_3, if_pos h]
  rintro rest rfl rfl
  exact hpair rfl rfl

/-- A text without line breaks. -/
def OneLine (text : List Char) : Prop := ∀ c ∈ text, isLineBreak c = false

instance (text : List Char) : Decidable (OneLine text) :=
  decidable_of_iff (text.all (!isLineBreak ·) = true) (by simp [OneLine])

@[simp] theorem oneLine_nil : OneLine [] := by simp [OneLine]

@[simp] theorem oneLine_cons {c : Char} {text : List Char} :
    OneLine (c :: text) ↔ isLineBreak c = false ∧ OneLine text := by
  simp [OneLine]

@[simp] theorem oneLine_append {front back : List Char} :
    OneLine (front ++ back) ↔ OneLine front ∧ OneLine back := by
  simp [OneLine, or_imp, forall_and]

/-- What stands before a text and holds no line break joins its first line. -/
theorem lines_append {front text line : List Char} {more : List (List Char)}
    (hfront : OneLine front) (htext : lines text = line :: more) :
    lines (front ++ text) = (front ++ line) :: more := by
  induction front with
  | nil => exact htext
  | cons c front ih =>
    obtain ⟨hc, hfront⟩ := oneLine_cons.1 hfront
    rw [List.cons_append, lines_cons_of_plain hc, ih hfront]
    rfl

theorem lines_append_newline {line : List Char} (hline : OneLine line) (rest : List Char) :
    lines (line ++ '\n' :: rest) = line :: lines rest := by
  have hbreak : lines ('\n' :: rest) = [] :: lines rest :=
    lines_cons_of_break rfl fun h => absurd h (by decide)
  rw [lines_append hline hbreak, List.append_nil]

theorem lines_ne_nil {text : List Char} (h : text ≠ []) : lines text ≠ [] := by
  unfold lines
  split
  · exact absurd rfl h
  · exact List.cons_ne_nil _ _
  · split
    · exact List.cons_ne_nil _ _
    · split <;> exact List.cons_ne_nil _ _

theorem lines_of_oneLine {text : List Char} (h : OneLine text) (hne : text ≠ []) :
    lines text = [text] := by
  induction text with
  | nil => exact absurd rfl hne
  | cons c text ih =>
    obtain ⟨hc, htext⟩ := oneLine_cons.1 h
    rw [lines_cons_of_plain hc]
    by_cases hnil : text = []
    · rw [hnil]
      rfl
    · rw [ih htext hnil]

/-- The same where the text may be empty. -/
theorem lines_append_headD {front : List Char} (hfront : OneLine front) (hne : front ≠ [])
    (text : List Char) :
    lines (front ++ text) = (front ++ (lines text).headD []) :: (lines text).tail := by
  cases htext : lines text with
  | cons line more => exact lines_append hfront htext
  | nil =>
    have hnil : text = [] := Classical.not_not.1 fun h => lines_ne_nil h htext
    subst hnil
    rw [List.append_nil, lines_of_oneLine hfront hne]
    rw [List.headD_nil, List.append_nil, List.tail_nil]

/-- A line feed behind a text ends its last line. Where that line has ended already, or where there
is none, a blank line stands before the lines of what follows. -/
theorem exists_lines_append (front back : List Char) :
    ∃ blank : List (List Char), (blank = [] ∨ blank = [[]]) ∧
      lines (front ++ '\n' :: back) = lines front ++ (blank ++ lines back) := by
  fun_induction lines front with
  | case1 =>
    refine ⟨[[]], .inr rfl, ?_⟩
    exact lines_append_newline oneLine_nil back
  | case2 rest ih =>
    obtain ⟨blank, hblank, hlines⟩ := ih
    refine ⟨blank, hblank, ?_⟩
    rw [List.cons_append, List.cons_append, lines.eq_2, hlines, List.cons_append]
  | case3 c rest hpair hbreak ih =>
    by_cases hcut : c = '\r' ∧ rest = []
    · -- The carriage return at the end of the text and the line feed end one line together.
      obtain ⟨rfl, rfl⟩ := hcut
      refine ⟨[], .inl rfl, ?_⟩
      simp [lines]
    · obtain ⟨blank, hblank, hlines⟩ := ih
      refine ⟨blank, hblank, ?_⟩
      have hhead : c = '\r' → (rest ++ '\n' :: back).head? ≠ some '\n' := by
        rintro rfl hhead
        cases rest with
        | nil => exact hcut ⟨rfl, rfl⟩
        | cons d rest => exact hpair rest rfl (by rw [Option.some.inj hhead])
      rw [List.cons_append, lines_cons_of_break hbreak hhead, hlines, List.cons_append]
  | case4 c rest hpair hbreak hnil ih =>
    have hrest : rest = [] := Classical.not_not.1 fun hne => lines_ne_nil hne hnil
    subst hrest
    have hone : OneLine [c] := by simpa using hbreak
    refine ⟨[], .inl rfl, ?_⟩
    exact lines_append_newline hone back
  | case5 c rest hpair hbreak line more hlines ih =>
    obtain ⟨blank, hblank, hall⟩ := ih
    refine ⟨blank, hblank, ?_⟩
    rw [hlines, List.cons_append] at hall
    rw [List.cons_append, lines_cons_of_plain (by simpa using hbreak), hall, List.cons_append]

/-- How the first line of a text ends inside it: whatever follows the text, so long as no line feed
completes a carriage return, the lines are that line and those of what is left. -/
structure FirstLine (text line rest : List Char) : Prop where
  one_line : OneLine line
  starts : line <+: text
  ends : rest <:+ text
  shorter : rest.length < text.length
  lines_eq : ∀ tail : List Char, tail.head? ≠ some '\n' →
    lines (text ++ tail) = line :: lines (rest ++ tail)

/-- A text lies on one line, or its first line ends inside it. -/
theorem lines_cases (text : List Char) :
    OneLine text ∨ ∃ line rest, FirstLine text line rest := by
  induction text with
  | nil => exact .inl oneLine_nil
  | cons c text ih =>
    cases hc : isLineBreak c with
    | true =>
      right
      by_cases hpair : c = '\r' ∧ text.head? = some '\n'
      · obtain ⟨rfl, hhead⟩ := hpair
        obtain ⟨rest, rfl⟩ := List.head?_eq_some_iff.1 hhead
        have hlt : rest.length < rest.length + 1 + 1 := by omega
        exact ⟨[], rest, oneLine_nil, by simp, ⟨['\r', '\n'], rfl⟩, hlt,
          fun tail _ => by simp [lines]⟩
      · refine ⟨[], text, oneLine_nil, by simp, ⟨[c], rfl⟩, by simp, fun tail htail => ?_⟩
        refine lines_cons_of_break hc fun hr hhead => ?_
        cases text with
        | nil => exact htail hhead
        | cons d text => exact hpair ⟨hr, hhead⟩
    | false =>
      rcases ih with hplain | ⟨line, rest, hfirst⟩
      · exact .inl (oneLine_cons.2 ⟨hc, hplain⟩)
      · right
        refine ⟨c :: line, rest, oneLine_cons.2 ⟨hc, hfirst.one_line⟩, ?_, ?_, ?_,
          fun tail htail => ?_⟩
        · exact (List.prefix_cons_inj c).2 hfirst.starts
        · exact hfirst.ends.trans (List.suffix_cons c text)
        · exact Nat.lt_succ_of_lt hfirst.shorter
        · rw [List.cons_append, lines_cons_of_plain hc, hfirst.lines_eq tail htail]

theorem oneLine_of_mem_lines {text line : List Char} (h : line ∈ lines text) : OneLine line := by
  fun_induction lines text generalizing line with
  | case1 => cases h
  | case2 rest ih =>
    rcases List.mem_cons.1 h with rfl | h
    · exact oneLine_nil
    · exact ih h
  | case3 c rest hpair hbreak ih =>
    rcases List.mem_cons.1 h with rfl | h
    · exact oneLine_nil
    · exact ih h
  | case4 c rest hpair hplain hnil ih =>
    obtain rfl := List.mem_singleton.1 h
    exact oneLine_cons.2 ⟨by simpa using hplain, oneLine_nil⟩
  | case5 c rest hpair hplain first more hlines ih =>
    rw [hlines] at ih
    rcases List.mem_cons.1 h with rfl | h
    · exact oneLine_cons.2 ⟨by simpa using hplain, ih List.mem_cons_self⟩
    · exact ih (List.mem_cons_of_mem first h)

/-- A line feed behind a sign that is no line break ends a line. -/
theorem lines_append_line (front : List Char) {c : Char} (hc : isLineBreak c = false)
    (back : List Char) :
    lines (front ++ c :: '\n' :: back) = lines (front ++ [c]) ++ lines back := by
  induction hlen : front.length using Nat.strongRecOn generalizing front with
  | ind n ih =>
    have hsign : lines [c] = [[c]] := lines_cons_of_plain hc []
    rcases lines_cases front with hone | ⟨line, rest, hfirst⟩
    · have hline : OneLine (front ++ [c]) := oneLine_append.2 ⟨hone, by simp [hc]⟩
      have hlines := lines_append_newline hline back
      rw [List.append_assoc] at hlines
      rw [lines_append hone hsign]
      exact hlines
    · have hne : c ≠ '\n' := by
        rintro rfl
        cases hc
      rw [hfirst.lines_eq (c :: '\n' :: back) (by simpa using hne),
        hfirst.lines_eq [c] (by simpa using hne), List.cons_append]
      rw [ih rest.length (hlen ▸ hfirst.shorter) rest rfl]

theorem trimStart_append {space : List Char} (h : ∀ c ∈ space, isSpace c = true)
    (text : List Char) : trimStart (space ++ text) = trimStart text :=
  List.dropWhile_append_of_pos h

theorem trimStart_cons {c : Char} (h : isSpace c = false) (text : List Char) :
    trimStart (c :: text) = c :: text :=
  List.dropWhile_cons_of_neg (by simp [h])

theorem trimEnd_append_cons {c : Char} (h : isSpace c = false) (front back : List Char) :
    trimEnd (front ++ c :: back) = front ++ c :: trimEnd back := by
  have hrev : (front ++ c :: back).reverse = back.reverse ++ c :: front.reverse := by simp
  rw [trimEnd, trimEnd, hrev, List.dropWhile_append]
  split
  · next hempty =>
    rw [List.isEmpty_iff.1 hempty, List.dropWhile_cons_of_neg (by simp [h])]
    simp
  · simp

theorem trimEnd_prefix_self (text : List Char) : trimEnd text <+: text := by
  obtain ⟨space, hspace⟩ := List.dropWhile_suffix isSpace (l := text.reverse)
  refine ⟨space.reverse, ?_⟩
  rw [trimEnd, ← List.reverse_append, hspace, List.reverse_reverse]

theorem trim_infix_self (text : List Char) : trim text <:+: text :=
  (trimEnd_prefix_self _).isInfix.trans (List.dropWhile_suffix isSpace).isInfix

theorem trim_of_space {space : List Char} (h : ∀ c ∈ space, isSpace c = true) :
    trim space = [] := by
  have hstart := trimStart_append h []
  rw [List.append_nil] at hstart
  rw [trim, hstart]
  rfl

/-- The indentation of a line goes, and white space at its end. -/
theorem trim_indented {space front : List Char} (hspace : ∀ c ∈ space, isSpace c = true)
    (hfront : ∀ c ∈ front.head?, isSpace c = false) {c : Char} (hc : isSpace c = false)
    (back : List Char) : trim (space ++ (front ++ c :: back)) = front ++ c :: trimEnd back := by
  rw [trim, trimStart_append hspace]
  cases front with
  | nil =>
    rw [List.nil_append, trimStart_cons hc]
    exact trimEnd_append_cons hc [] back
  | cons d front =>
    rw [List.cons_append, trimStart_cons (hfront d rfl)]
    exact trimEnd_append_cons hc (d :: front) back

/-- Two signs at the start of a line stay where the line is trimmed. -/
theorem trim_signs {space : List Char} (hspace : ∀ c ∈ space, isSpace c = true) {c d : Char}
    (hc : isSpace c = false) (hd : isSpace d = false) (line : List Char) :
    trim (space ++ c :: d :: line) = c :: d :: trimEnd line := by
  have hfront : ∀ e ∈ [c].head?, isSpace e = false := fun e he => Option.some.inj he ▸ hc
  exact trim_indented hspace hfront hd line

theorem trimEnd_trimEnd (text : List Char) : trimEnd (trimEnd text) = trimEnd text := by
  rw [trimEnd, trimEnd, List.reverse_reverse, List.dropWhile_idempotent]

/-- White space at the end goes once and for all. -/
theorem trim_trimEnd (text : List Char) : trim (trimEnd text) = trim text := by
  have hspace : ∀ c ∈ text.takeWhile isSpace, isSpace c = true :=
    List.all_eq_true.1 List.all_takeWhile
  have hsplit : text = text.takeWhile isSpace ++ trimStart text :=
    List.takeWhile_append_dropWhile.symm
  cases hstart : trimStart text with
  | nil =>
    rw [hstart, List.append_nil] at hsplit
    have hall : ∀ c ∈ text, isSpace c = true := by
      rw [hsplit]
      exact hspace
    rw [trim_of_space hall]
    exact trim_of_space fun c hc => hall c ((trimEnd_prefix_self text).subset hc)
  | cons c back =>
    have hc : isSpace c = false := by
      have hhead := List.head?_dropWhile_not isSpace text
      rw [show text.dropWhile isSpace = c :: back from hstart] at hhead
      simpa using hhead
    have hnil : ∀ d ∈ ([] : List Char).head?, isSpace d = false := by simp
    have htrim : trim text = c :: trimEnd back := by
      rw [hsplit, hstart]
      exact trim_indented hspace hnil hc back
    have hend : trimEnd text = text.takeWhile isSpace ++ c :: trimEnd back := by
      conv_lhs => rw [hsplit, hstart]
      exact trimEnd_append_cons hc _ back
    rw [htrim, hend]
    have hagain := trim_indented hspace hnil hc (trimEnd back)
    rw [trimEnd_trimEnd] at hagain
    exact hagain
/-- A text that neither starts nor ends with white space is what trimming leaves of it. -/
theorem trim_append_space {text space : List Char} (hhead : ∀ c ∈ text.head?, isSpace c = false)
    (hlast : ∀ c ∈ text.getLast?, isSpace c = false) (hspace : ∀ c ∈ space, isSpace c = true) :
    trim (text ++ space) = text := by
  cases hne : text.getLast? with
  | none =>
    rw [List.getLast?_eq_none_iff.1 hne]
    exact trim_of_space hspace
  | some c =>
    obtain ⟨front, rfl⟩ := List.getLast?_eq_some_iff.1 hne
    have hnil : trimEnd space = [] := by
      have hall : ∀ c ∈ space.reverse, isSpace c = true := fun c hc => hspace c (by simpa using hc)
      have hdrop := trimStart_append hall []
      rw [List.append_nil] at hdrop
      exact congrArg List.reverse hdrop
    have hfront : ∀ d ∈ front.head?, isSpace d = false := by
      intro d hd
      exact hhead d (by rw [List.head?_append, Option.mem_def.1 hd]; rfl)
    rw [← List.append_cons]
    have htrim : trim ([] ++ (front ++ c :: space)) = front ++ c :: trimEnd space :=
      trim_indented (by simp) hfront (hlast c hne) space
    rwa [hnil] at htrim

theorem trimStart_append_cons {c : Char} (h : isSpace c = false) (front back : List Char) :
    trimStart (front ++ c :: back) = trimStart front ++ c :: back := by
  rw [trimStart, trimStart, List.dropWhile_append]
  split
  · next hempty =>
    rw [List.isEmpty_iff.1 hempty, List.dropWhile_cons_of_neg (by simp [h])]
    rfl
  · rfl

theorem startsWith_iff {marker text : List Char} :
    startsWith marker text = true ↔ marker <+: text := by
  rw [startsWith, Option.isSome_iff_exists]
  constructor
  · rintro ⟨rest, hrest⟩
    exact ⟨rest, (after?_eq_some_iff.1 hrest).symm⟩
  · rintro ⟨rest, hrest⟩
    exact ⟨rest, after?_eq_some_iff.2 hrest.symm⟩

theorem endsWith_iff {marker text : List Char} :
    endsWith marker text = true ↔ marker <:+ text := by
  rw [endsWith, startsWith_iff, List.reverse_prefix]

theorem afterFirst?_eq_none {marker text : List Char} (hmarker : marker ≠ [])
    (h : ¬ marker <:+: text) : afterFirst? marker text = none := by
  induction text with
  | nil => rw [afterFirst?, if_neg hmarker]
  | cons c text ih =>
    rw [afterFirst?]
    split
    · next rest hrest =>
      exact absurd ⟨[], rest, by rw [after?_eq_some_iff.1 hrest]; rfl⟩ h
    · exact ih fun hin => h (hin.trans (List.suffix_cons c text).isInfix)

/-- The end of a comment is found behind a text that does not hold it. -/
theorem afterFirst?_append {body : List Char} (h : ¬ ['*', '/'] <:+: body) (rest : List Char) :
    afterFirst? ['*', '/'] (body ++ '*' :: '/' :: rest) = some rest := by
  induction body with
  | nil => simp [afterFirst?, after?]
  | cons c body ih =>
    have hnone : after? ['*', '/'] (c :: (body ++ '*' :: '/' :: rest)) = none := by
      rw [Option.eq_none_iff_forall_ne_some]
      intro found hfound
      cases body with
      | nil => simp [after?_eq_some_iff] at hfound
      | cons d body =>
        simp only [after?_eq_some_iff, List.cons_append, List.nil_append, List.cons.injEq] at hfound
        obtain ⟨rfl, rfl, -⟩ := hfound
        exact h ⟨[], body, rfl⟩
    rw [List.cons_append, afterFirst?, hnone]
    exact ih fun hin => h (hin.trans (List.suffix_cons c body).isInfix)

end Text

end Vetting
