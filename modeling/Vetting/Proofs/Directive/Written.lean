import Vetting.Proofs.Directive.Reading

/-!
# Vetting.Proofs.Directive.Written

Import directives as they are written: a keyword and blanks, the word `static` and blanks where
members are imported, and a target. A line that opens with `static` and a blank behind the keyword
is not written in another way: the grammar takes the word where it can, and does not turn back.

The keywords are free, as long as no blank stands in them. One may open with another one, since the
grammar tries long keywords first.

* `WrittenDirective.read?_text`: a directive that is written is read.
* `WrittenDirective.exists_of_read?`: a directive that is read is written.
* `WrittenDirective.text_injective`: it is written in one way.
-/

namespace Vetting

open Grammar Text

/-! ## Keywords -/

namespace Dialect

/-- The standard dialect with import keywords of its own. -/
def withKeywords (words : List String) : Dialect := { standard with importKeywords := words }

theorem isExtended_withKeywords (words : List String) : (withKeywords words).isExtended = false :=
  (rfl : standard.isExtended = false)

theorem name_withKeywords (words : List String) (line : List Char) :
    (withKeywords words).name line = maybeMarkedName '@' := by
  have hform : (withKeywords words).nameForm? = standard.nameForm? := rfl
  rw [name, hform]
  exact name_standard line

theorem staticClause_withKeywords (words : List String) :
    (withKeywords words).staticClause = standard.staticClause := rfl

theorem readTail?_withKeywords (words : List String) :
    Directive.readTail? (withKeywords words) = Directive.readTail? standard := rfl

theorem pairwise_keywordChoices (dialect : Dialect) :
    dialect.keywordChoices.Pairwise fun a b => b.length ≤ a.length := by
  have htrans : ∀ a b c : List Char, decide (b.length ≤ a.length) = true →
      decide (c.length ≤ b.length) = true → decide (c.length ≤ a.length) = true := by
    intro a b c hab hbc
    rw [decide_eq_true_iff] at hab hbc ⊢
    omega
  have htotal : ∀ a b : List Char,
      (decide (b.length ≤ a.length) || decide (a.length ≤ b.length)) = true := by
    intro a b
    rw [Bool.or_eq_true, decide_eq_true_iff, decide_eq_true_iff]
    omega
  exact (List.pairwise_mergeSort htrans htotal _).imp of_decide_eq_true

end Dialect

namespace Grammar

variable {literals : List (List Char)} {text literal rest : List Char}

theorem exists_of_firstLiteral (h : firstLiteral literals text = some (literal, rest)) :
    literal ∈ literals ∧ text = literal ++ rest := by
  induction literals with
  | nil => cases h
  | cons other literals ih =>
    rw [firstLiteral] at h
    split at h
    · next hafter =>
      cases h
      exact ⟨List.mem_cons_self, after?_eq_some_iff.1 hafter⟩
    · exact ⟨List.mem_cons_of_mem other (ih h).1, (ih h).2⟩

/-- Among literals that are tried longest first, one is found where no other as long stands. -/
theorem firstLiteral_append (hsorted : literals.Pairwise fun a b => b.length ≤ a.length)
    (hmem : literal ∈ literals)
    (hother : ∀ other ∈ literals, literal.length ≤ other.length → other ≠ literal →
      after? other (literal ++ rest) = none) :
    firstLiteral literals (literal ++ rest) = some (literal, rest) := by
  induction literals with
  | nil => cases hmem
  | cons other literals ih =>
    obtain ⟨hlong, hsorted⟩ := List.pairwise_cons.1 hsorted
    by_cases heq : other = literal
    · subst heq
      simp [firstLiteral, after?_eq_some_iff.2 rfl]
    · have htail : literal ∈ literals := (List.mem_cons.1 hmem).resolve_left fun h => heq h.symm
      have hnone := hother other List.mem_cons_self (hlong literal htail) heq
      rw [firstLiteral, hnone]
      exact ih hsorted htail fun next hnext => hother next (List.mem_cons_of_mem other hnext)

theorem length_le_of_firstLiteral (hsorted : literals.Pairwise fun a b => b.length ≤ a.length)
    (h : firstLiteral literals text = some (literal, rest)) {other tail : List Char}
    (hmem : other ∈ literals) (htext : text = other ++ tail) : other.length ≤ literal.length := by
  induction literals with
  | nil => cases hmem
  | cons first literals ih =>
    obtain ⟨hlong, hsorted⟩ := List.pairwise_cons.1 hsorted
    rw [firstLiteral] at h
    split at h
    · cases h
      rcases List.mem_cons.1 hmem with rfl | hmem
      · exact Nat.le_refl _
      · exact hlong other hmem
    · next hnone =>
      rcases List.mem_cons.1 hmem with rfl | hmem
      · rw [after?_eq_some_iff.2 htext] at hnone
        cases hnone
      · exact ih hsorted h hmem

/-- Among literals that are tried longest first, the longest is found. -/
theorem firstLiteral_eq_some_iff (hsorted : literals.Pairwise fun a b => b.length ≤ a.length) :
    firstLiteral literals text = some (literal, rest) ↔
      literal ∈ literals ∧ text = literal ++ rest ∧
        ∀ other ∈ literals, ∀ tail, text = other ++ tail → other.length ≤ literal.length := by
  constructor
  · intro h
    obtain ⟨hmem, htext⟩ := exists_of_firstLiteral h
    exact ⟨hmem, htext, fun other hother tail =>
      length_le_of_firstLiteral hsorted h hother⟩
  · rintro ⟨hmem, rfl, hlongest⟩
    refine firstLiteral_append hsorted hmem fun other hother hlong hne => ?_
    rw [Option.eq_none_iff_forall_ne_some]
    intro tail hafter
    rw [after?_eq_some_iff] at hafter
    have hle := hlongest other hother tail hafter
    exact hne (List.append_inj_left hafter (Nat.le_antisymm hlong hle)).symm

end Grammar

namespace Dialect

theorem mem_keywordChoices {dialect : Dialect} {literal : List Char} :
    literal ∈ dialect.keywordChoices ↔ ∃ word ∈ dialect.importKeywords, word.toList = literal := by
  rw [keywordChoices, List.mem_mergeSort, List.mem_map]

theorem exists_of_keyword {dialect : Dialect} {line literal rest : List Char}
    (h : dialect.keyword line = some (literal, rest)) :
    ∃ word ∈ dialect.importKeywords, literal = word.toList ∧ line = literal ++ rest := by
  obtain ⟨hmem, hline⟩ := exists_of_firstLiteral h
  obtain ⟨word, hword, rfl⟩ := mem_keywordChoices.1 hmem
  exact ⟨word, hword, rfl, hline⟩

/-- Where no keyword holds a character of a kind, the keyword before such a character is found: a
longer one that starts there would hold it. -/
theorem keyword_of_stop {dialect : Dialect} {p : Char → Bool}
    (hwords : ∀ word ∈ dialect.importKeywords, ∀ c ∈ word.toList, p c = false)
    {word : String} (hword : word ∈ dialect.importKeywords) {c : Char} (hc : p c = true)
    (rest : List Char) :
    dialect.keyword (word.toList ++ c :: rest) = some (word.toList, c :: rest) := by
  refine (firstLiteral_eq_some_iff dialect.pairwise_keywordChoices).2
    ⟨mem_keywordChoices.2 ⟨word, hword, rfl⟩, rfl, fun other hother tail htext => ?_⟩
  obtain ⟨word', hword', rfl⟩ := mem_keywordChoices.1 hother
  rcases List.append_eq_append_iff.1 htext with ⟨front, hfront, htail⟩ | ⟨front, hfront, -⟩
  · cases front with
    | nil => rw [hfront, List.append_nil]
    | cons d front =>
      obtain rfl : c = d := (List.cons.inj htail).1
      have hc' := hwords word' hword' c (by rw [hfront]; simp)
      rw [hc] at hc'
      cases hc'
  · rw [hfront, List.length_append]
    exact Nat.le_add_right _ _

end Dialect

section Keyword

variable {words : List String} (hblank : ∀ word ∈ words, ∀ c ∈ word.toList, isBlank c = false)
include hblank

theorem Dialect.keyword_append {word : String} (hword : word ∈ words) {blanks : Blanks}
    (hne : blanks.text ≠ []) (rest : List Char) :
    (withKeywords words).keyword (word.toList ++ (blanks.text ++ rest)) =
      some (word.toList, blanks.text ++ rest) := by
  obtain ⟨c, more, hcons, hc⟩ := blanks.exists_cons hne
  rw [hcons, List.cons_append]
  exact keyword_of_stop hblank hword hc (more ++ rest)

/-- What stands after the keyword and blanks is read behind the static clause, or without it. -/
theorem Directive.read?_withKeywords {word : String} (hword : word ∈ words) (blanks : Blanks)
    (hne : blanks.text ≠ []) {text : List Char} (htext : ∀ c ∈ text.head?, isBlank c = false) :
    read? (.withKeywords words) (word.toList ++ (blanks.text ++ text)) =
      (Dialect.standard.staticClause text).elim
        (readTail? .standard (maybeMarkedName '@') word.toList false text)
        (readTail? .standard (maybeMarkedName '@') word.toList true) := by
  simp only [read?, Dialect.keyword_append hblank hword hne, blanks.blanks_append hne htext,
    Dialect.name_withKeywords, Dialect.staticClause_withKeywords, Dialect.readTail?_withKeywords,
    Option.bind_eq_bind, Option.bind_some]
  cases Dialect.standard.staticClause text <;> rfl

end Keyword

/-! ## Directives -/

/-- At least one blank. -/
abbrev Spacing := { blanks : Blanks // blanks.text ≠ [] }

/-- A text that opens with `static` and a blank. -/
def OpensStatic (text : List Char) : Prop :=
  ∃ c rest, isBlank c = true ∧ text = "static".toList ++ c :: rest

theorem staticClause_eq_none_iff {text : List Char} :
    Dialect.standard.staticClause text = none ↔ ¬ OpensStatic text := by
  rw [Dialect.staticClause, Option.bind_eq_none_iff]
  constructor
  · rintro h ⟨c, rest, hc, rfl⟩
    have hnone := h _ (after?_eq_some_iff.2 rfl)
    rw [blanks, if_pos hc] at hnone
    cases hnone
  · intro h rest hafter
    rw [after?_eq_some_iff] at hafter
    cases rest with
    | nil => rfl
    | cons c rest =>
      by_cases hc : isBlank c = true
      · exact absurd ⟨c, rest, hc, hafter⟩ h
      · rw [blanks, if_neg hc]

/-- An import directive, the way it is written. -/
@[ext] structure WrittenDirective (words : List String) where
  keyword : String
  keyword_mem : keyword ∈ words
  spacing : Spacing
  /-- The blanks behind the word `static`. -/
  static? : Option Spacing
  target : ImportTarget
  not_opensStatic : static? = none → ¬ OpensStatic target.text

namespace WrittenDirective

variable {words : List String} (written : WrittenDirective words)

/-- What stands behind the keyword and its blanks. -/
def behind : List Char :=
  (written.static?.elim [] fun spacing => "static".toList ++ spacing.1.text) ++ written.target.text

def text : List Char := written.keyword.toList ++ (written.spacing.1.text ++ written.behind)

def directive : Directive :=
  written.target.directive written.keyword.toList written.static?.isSome

theorem behind_of_none (h : written.static? = none) : written.behind = written.target.text := by
  rw [behind, h]
  rfl

theorem behind_of_some {spacing : Spacing} (h : written.static? = some spacing) :
    written.behind = "static".toList ++ (spacing.1.text ++ written.target.text) := by
  rw [behind, h]
  simp

theorem isBlank_behind_head : ∀ c ∈ written.behind.head?, isBlank c = false := by
  cases hstatic : written.static? with
  | none =>
    rw [written.behind_of_none hstatic]
    exact written.target.isBlank_head
  | some spacing =>
    rw [written.behind_of_some hstatic]
    intro c hc
    obtain rfl : 's' = c := Option.some.inj hc
    decide

theorem staticClause_behind :
    Dialect.standard.staticClause written.behind =
      written.static?.map fun _ => written.target.text := by
  cases hstatic : written.static? with
  | none =>
    rw [written.behind_of_none hstatic]
    exact staticClause_eq_none_iff.2 (written.not_opensStatic hstatic)
  | some spacing =>
    have hafter : after? Dialect.standard.staticKeyword.toList
        ("static".toList ++ (spacing.1.text ++ written.target.text)) =
          some (spacing.1.text ++ written.target.text) := after?_eq_some_iff.2 rfl
    rw [written.behind_of_some hstatic, Dialect.staticClause, hafter]
    exact spacing.1.blanks_append spacing.2 written.target.isBlank_head

section Reading

variable (hblank : ∀ word ∈ words, ∀ c ∈ word.toList, isBlank c = false)
include hblank

theorem read?_text :
    Directive.read? (.withKeywords words) written.text = some (written.directive, []) := by
  rw [text, Directive.read?_withKeywords hblank written.keyword_mem _ written.spacing.2
    written.isBlank_behind_head, staticClause_behind]
  cases hstatic : written.static? with
  | none =>
    simp [written.behind_of_none hstatic, written.target.readTail?_text, directive, hstatic]
  | some spacing => simp [written.target.readTail?_text, directive, hstatic]

theorem text_injective {a b : WrittenDirective words} (h : a.text = b.text) : a = b := by
  -- Both are read alike, part by part, so the parts are the same.
  have hkeyword := Dialect.keyword_append hblank a.keyword_mem a.spacing.2 a.behind
  have hkeyword' := Dialect.keyword_append hblank b.keyword_mem b.spacing.2 b.behind
  rw [text, text] at h
  rw [h, hkeyword', Option.some.injEq, Prod.mk.injEq] at hkeyword
  obtain ⟨hword, hrest⟩ := hkeyword
  obtain ⟨hspacing, hbehind⟩ :=
    Blanks.append_inj b.isBlank_behind_head a.isBlank_behind_head hrest
  have hclause := a.staticClause_behind
  rw [← hbehind, b.staticClause_behind] at hclause
  have hparts : a.static? = b.static? ∧ a.target.text = b.target.text := by
    cases ha : a.static? with
    | none =>
      cases hb : b.static? with
      | none =>
        rw [a.behind_of_none ha, b.behind_of_none hb] at hbehind
        exact ⟨rfl, hbehind.symm⟩
      | some spacing => simp [ha, hb] at hclause
    | some spacing =>
      cases hb : b.static? with
      | none => simp [ha, hb] at hclause
      | some spacing' =>
        rw [a.behind_of_some ha, b.behind_of_some hb] at hbehind
        obtain ⟨hblanks, htarget⟩ := Blanks.append_inj b.target.isBlank_head
          a.target.isBlank_head (List.append_cancel_left hbehind)
        exact ⟨congrArg some (Subtype.ext hblanks.symm), htarget.symm⟩
  exact WrittenDirective.ext (String.toList_injective hword.symm) (Subtype.ext hspacing.symm)
    hparts.1 (ImportTarget.text_injective hparts.2)

end Reading

theorem exists_of_read? {line : List Char} {directive : Directive}
    (h : Directive.read? (.withKeywords words) line = some (directive, [])) :
    ∃ written : WrittenDirective words, written.text = line ∧ written.directive = directive := by
  simp only [Directive.read?, Option.bind_eq_bind, Option.bind_eq_some_iff,
    Dialect.name_withKeywords, Dialect.staticClause_withKeywords,
    Dialect.readTail?_withKeywords] at h
  obtain ⟨⟨literal, behind⟩, hkeyword, rest, hblanks, h⟩ := h
  obtain ⟨word, hword, rfl, rfl⟩ := Dialect.exists_of_keyword hkeyword
  obtain ⟨blanks, hne, rfl⟩ := exists_of_blanks hblanks
  split at h
  · next tail hclause =>
    obtain ⟨behind, hafter, hstatic⟩ := Option.bind_eq_some_iff.1 hclause
    obtain ⟨spacing, hspacing, rfl⟩ := exists_of_blanks hstatic
    obtain ⟨target, rfl, hdirective⟩ := Directive.exists_of_readTail? h
    refine ⟨⟨word, hword, ⟨blanks, hne⟩, some ⟨spacing, hspacing⟩, target, nofun⟩, ?_, hdirective⟩
    rw [after?_eq_some_iff.1 hafter, text, behind_of_some _ rfl]
    rfl
  · next hclause =>
    obtain ⟨target, rfl, hdirective⟩ := Directive.exists_of_readTail? h
    exact ⟨⟨word, hword, ⟨blanks, hne⟩, none, target,
      fun _ => staticClause_eq_none_iff.1 hclause⟩, rfl, hdirective⟩

end WrittenDirective

/-! ## Lines -/

namespace Dialect

variable {words : List String}

theorem grammarTrouble?_withKeywords (hne : words ≠ [])
    (hliteral : ∀ word ∈ words, isLiteral word = true) :
    (withKeywords words).grammarTrouble? = none := by
  have hstatic : isLiteral standard.staticKeyword = true := by decide
  have hqualifier : isLiteral standard.rootQualifier = true := by decide
  have hempty : (withKeywords words).importKeywords.isEmpty = false := by
    simpa [withKeywords] using hne
  have hall : (withKeywords words).hasLiterals = true := by
    rw [hasLiterals, List.all_append, Bool.and_eq_true]
    refine ⟨List.all_eq_true.2 hliteral, ?_⟩
    simp [withKeywords, hstatic, hqualifier]
  have hform : (withKeywords words).nameForm?.isSome = true :=
    (rfl : standard.nameForm?.isSome = true)
  rw [grammarTrouble?, isExtended_withKeywords, if_neg Bool.false_ne_true, hempty,
    if_neg Bool.false_ne_true, hall, hform]
  rfl

end Dialect

namespace Directive

variable {words : List String} {line : List Char} {directive : Directive}

theorem read?_of_parse? (h : parse? (.withKeywords words) line = some directive) :
    read? (.withKeywords words) line = some (directive, []) := by
  rw [parse?, Dialect.isExtended_withKeywords, if_neg Bool.false_ne_true] at h
  split at h
  · cases h
  · split at h
    · next found hfound =>
      cases h
      exact hfound
    · cases h

theorem parse?_of_read? (hliteral : ∀ word ∈ words, Dialect.isLiteral word = true)
    (h : read? (.withKeywords words) line = some (directive, [])) :
    parse? (.withKeywords words) line = some directive := by
  obtain ⟨written, -, -⟩ := WrittenDirective.exists_of_read? h
  have htrouble := Dialect.grammarTrouble?_withKeywords
    (List.ne_nil_of_mem written.keyword_mem) hliteral
  rw [parse?, Dialect.isExtended_withKeywords, if_neg Bool.false_ne_true, htrouble, h]
  rfl

/-- A line is read exactly where it is written by the grammar, and as what it is written for. -/
theorem parse?_iff_written
    (hwords : ∀ word ∈ words, ∀ c ∈ word.toList, isBlank c = false ∧ c.toNat ≠ 0)
    (line : List Char) :
    (∀ directive, parse? (.withKeywords words) line = some directive ↔
        ∃ written : WrittenDirective words,
          written.text = line ∧ written.directive = directive) ∧
      ∀ a b : WrittenDirective words, a.text = line → b.text = line → a = b := by
  have hblank : ∀ word ∈ words, ∀ c ∈ word.toList, isBlank c = false :=
    fun word hword c hc => (hwords word hword c hc).1
  have hliteral : ∀ word ∈ words, Dialect.isLiteral word = true := by
    intro word hword
    rw [Dialect.isLiteral, List.all_eq_true]
    intro c hc
    obtain ⟨hb, hnull⟩ := hwords word hword c hc
    have hnewline : c ≠ '\n' := by
      rintro rfl
      exact absurd hb (by decide)
    have hreturn : c ≠ '\r' := by
      rintro rfl
      exact absurd hb (by decide)
    simp [hnewline, hreturn, hnull]
  refine ⟨fun directive => ⟨fun h => ?_, ?_⟩, fun a b ha hb => ?_⟩
  · exact WrittenDirective.exists_of_read? (read?_of_parse? h)
  · rintro ⟨written, rfl, rfl⟩
    exact parse?_of_read? hliteral (written.read?_text hblank)
  · exact WrittenDirective.text_injective hblank (ha.trans hb.symm)

/-- A directive with every part that may be missing, behind a keyword that opens with another
one. -/
def withAllParts : WrittenDirective ["use", "user"] where
  keyword := "user"
  keyword_mem := by decide
  spacing := ⟨⟨[' '], by decide⟩, by decide⟩
  static? := some ⟨⟨['\n'], by decide⟩, by decide⟩
  target :=
    { alias? := some ⟨⟨true, 'B', [], by decide, by decide⟩, ⟨[' '], by decide⟩, ⟨[], by decide⟩⟩
      isQualified := true
      path := ⟨⟨false, 'A', [], by decide, by decide⟩,
        [(⟨[' '], by decide⟩, ⟨['\t'], by decide⟩, ⟨false, 'C', [], by decide, by decide⟩)]⟩
      closing := ⟨[' '], by decide⟩
      rest := ⟨" // B".toList, by decide⟩ }
  not_opensStatic := nofun

theorem parse?_iff_written_all_parts :
    (∀ word ∈ ["use", "user"], ∀ c ∈ word.toList, isBlank c = false ∧ c.toNat ≠ 0) ∧
      withAllParts.text = "user static\n@B =global::A .\tC ; // B".toList ∧
      parse? (.withKeywords ["use", "user"]) withAllParts.text =
        some ⟨"user".toList, "A.C".toList, true, some "@B".toList⟩ ∧
      ∀ other : WrittenDirective ["use", "user"],
        other.text = withAllParts.text → other = withAllParts := by
  have hwords : ∀ word ∈ ["use", "user"], ∀ c ∈ word.toList,
      isBlank c = false ∧ c.toNat ≠ 0 := by simp [isBlank]
  have hdirective : withAllParts.directive =
      ⟨"user".toList, "A.C".toList, true, some "@B".toList⟩ := by decide
  obtain ⟨hread, hunique⟩ := parse?_iff_written hwords withAllParts.text
  exact ⟨hwords, by decide, (hread _).2 ⟨withAllParts, rfl, hdirective⟩,
    fun other hother => hunique other withAllParts hother rfl⟩

end Directive

end Vetting
