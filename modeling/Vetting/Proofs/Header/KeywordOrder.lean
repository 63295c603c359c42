import Vetting.Proofs.Directive.KeywordOrder
import Vetting.Proofs.Header.PlainRule
import Vetting.Proofs.Header.Raising

/-!
# Vetting.Proofs.Header.KeywordOrder

The order of the import keywords makes no difference to what a text imports. A header asks which
keyword its line opens with in the order of the dialect, and for white space behind it. Keywords
that hold no white space end at the first white space of the line, so only one can stand there; it
is also the longest that does, which the grammar takes.

* `Header.afterKeyword?_eq_some_iff`: the keyword of a line, whatever the order.
* `Header.keyword_order`: parsing and importing without an order, and the one keyword of either.
-/

namespace Vetting

open Grammar Text

namespace Header

variable {dialect : Dialect} {words : List String} {line body : List Char}

theorem isSpace_of_afterKeyword?_eq_none (h : afterKeyword? words line = none) {word : String}
    (hword : word ∈ words) {c : Char} {rest : List Char} (hline : line = word.toList ++ c :: rest) :
    isSpace c = false := by
  induction words with
  | nil => cases hword
  | cons other words ih =>
    rw [afterKeyword?] at h
    rcases List.mem_cons.1 hword with rfl | hword
    · rw [after?_eq_some_iff.2 hline] at h
      dsimp only at h
      split at h
      · cases h
      · next hc => exact Bool.eq_false_iff.2 hc
    · split at h
      · split at h
        · cases h
        · exact ih h hword
      · exact ih h hword

/-- The keyword of a line is the one that white space stands behind. -/
theorem afterKeyword?_eq_some_iff
    (hwords : ∀ word ∈ words, ∀ c ∈ word.toList, isSpace c = false) :
    afterKeyword? words line = some body ↔
      ∃ word ∈ words, line = word.toList ++ body ∧
        ∃ c rest, body = c :: rest ∧ isSpace c = true := by
  refine ⟨exists_of_afterKeyword?, ?_⟩
  rintro ⟨word, hword, hline, c, rest, rfl, hc⟩
  cases hfound : afterKeyword? words line with
  | none =>
    rw [isSpace_of_afterKeyword?_eq_none hfound hword hline] at hc
    cases hc
  | some body =>
    obtain ⟨word', hword', hline', d, rest', rfl, hd⟩ := exists_of_afterKeyword? hfound
    refine congrArg some (eq_of_append_eq (hwords word' hword') (hwords word hword) ?_ ?_
      (hline'.symm.trans hline))
    · rintro e he
      exact Option.some.inj he ▸ hd
    · rintro e he
      exact Option.some.inj he ▸ hc

section SameWords

variable (hwords : ∀ word ∈ dialect.importKeywords, ∀ c ∈ word.toList, isSpace c = false)
  (hsame : ∀ word, word ∈ words ↔ word ∈ dialect.importKeywords)
include hwords hsame

theorem afterKeyword?_reworded (line : List Char) :
    afterKeyword? words line = afterKeyword? dialect.importKeywords line := by
  have hwords' : ∀ word ∈ words, ∀ c ∈ word.toList, isSpace c = false :=
    fun word hword => hwords word ((hsame word).1 hword)
  refine Option.ext fun body => ?_
  simp only [afterKeyword?_eq_some_iff hwords, afterKeyword?_eq_some_iff hwords', hsame]

theorem read_reworded (line : List Char) :
    read (dialect.reworded words) line = read dialect line := by
  have hafter : afterKeyword? (dialect.reworded words).importKeywords line =
      afterKeyword? dialect.importKeywords line := afterKeyword?_reworded hwords hsame line
  have hplain : readPlain (dialect.reworded words) = readPlain dialect := rfl
  rw [read, read, hafter, Directive.parse_reworded hsame, hplain]

theorem scanLines_reworded (isOpen : Open) (lines : List (List Char)) :
    scanLines (dialect.reworded words) isOpen lines = scanLines dialect isOpen lines := by
  induction lines generalizing isOpen with
  | nil => rfl
  | cons raw more ih => simp only [scanLines, read_reworded hwords hsame, ih]

theorem scanNames_reworded (text : String) :
    scanNames (dialect.reworded words) text = scanNames dialect text := by
  rw [scanNames, scanNames, scan, scan, scanLines_reworded hwords hsame]

end SameWords

/-- The grammar takes the keyword that white space stands behind: a longer one would hold it. -/
theorem eq_keyword_append_of_parse
    (hwords : ∀ word ∈ dialect.importKeywords, ∀ c ∈ word.toList, isSpace c = false)
    (hkeeps : dialect.KeepsKeywordRules) {directive : Directive}
    (hafter : afterKeyword? dialect.importKeywords line = some body)
    (hparse : Directive.parse dialect line = .ok (some directive)) :
    line = directive.keyword ++ body := by
  obtain ⟨word, hword, rfl, c, more, rfl, hc⟩ := exists_of_afterKeyword? hafter
  obtain ⟨rest, hkeyword⟩ :=
    Directive.exists_keyword_of_parse? hkeeps (Directive.parse?_of_parse hparse)
  rw [Dialect.keyword_of_stop hwords hword hc more] at hkeyword
  obtain ⟨hword, -⟩ := Prod.mk.inj (Option.some.inj hkeyword)
  rw [hword]

/-- Import keywords that hold no white space have no order. With the same ones in any order, and as
often as may be, every line is parsed and every text imports alike, and what reading a line or a
text raises is raised either way; and the keyword that a header sees in a line is the one that the
grammar reads there, as long as the escape mark does not put other rules in the place of the
grammar's. -/
theorem keyword_order
    (hwords : ∀ word ∈ dialect.importKeywords, ∀ c ∈ word.toList, isSpace c = false)
    (hsame : ∀ word, word ∈ words ↔ word ∈ dialect.importKeywords) :
    (∀ line, Directive.parse (dialect.reworded words) line = Directive.parse dialect line) ∧
      (∀ text, scanNames (dialect.reworded words) text = scanNames dialect text) ∧
      (dialect.KeepsKeywordRules → ∀ line body directive,
        afterKeyword? dialect.importKeywords line = some body →
          Directive.parse dialect line = .ok (some directive) →
            line = directive.keyword ++ body) :=
  ⟨Directive.parse_reworded hsame, scanNames_reworded hwords hsame,
    fun hkeeps _ _ _ => eq_keyword_append_of_parse hwords hkeeps⟩

/-- The one keyword opens with the other, and stands twice in the other order. -/
theorem keyword_order_long_keyword :
    (∀ word ∈ (Dialect.withKeywords ["use", "user"]).importKeywords, ∀ c ∈ word.toList,
        isSpace c = false) ∧
      (∀ word, word ∈ ["user", "use", "user"] ↔
        word ∈ (Dialect.withKeywords ["use", "user"]).importKeywords) ∧
      (Dialect.withKeywords ["use", "user"]).KeepsKeywordRules ∧
      afterKeyword? ["use", "user"] "user A;".toList = some " A;".toList ∧
      Directive.parse (.withKeywords ["use", "user"]) "user A;".toList =
        .ok (some ⟨"user".toList, "A".toList, false, none⟩) ∧
      Directive.parse ((Dialect.withKeywords ["use", "user"]).reworded ["user", "use", "user"])
        "user A;".toList = .ok (some ⟨"user".toList, "A".toList, false, none⟩) ∧
      "user A;".toList = "user".toList ++ " A;".toList := by
  have hwords : ∀ word ∈ (Dialect.withKeywords ["use", "user"]).importKeywords,
      ∀ c ∈ word.toList, isSpace c = false := by
    simp [Dialect.withKeywords, isSpace, isBlank]
  have hsame : ∀ word, word ∈ ["user", "use", "user"] ↔
      word ∈ (Dialect.withKeywords ["use", "user"]).importKeywords := by
    intro word
    simp only [Dialect.withKeywords, List.mem_cons, List.not_mem_nil, or_false]
    constructor
    · rintro (rfl | rfl | rfl) <;> simp
    · rintro (rfl | rfl) <;> simp
  have hkeeps : (Dialect.withKeywords ["use", "user"]).KeepsKeywordRules :=
    Dialect.keepsKeywordRules_of_length (by decide)
  have hafter : afterKeyword? ["use", "user"] "user A;".toList = some " A;".toList := by decide
  have huser : "user" ∈ (Dialect.withKeywords ["use", "user"]).importKeywords := by decide
  have hspace : isSpace ' ' = true := by decide
  have hkeyword : (Dialect.withKeywords ["use", "user"]).keyword "user A;".toList =
      some ("user".toList, " A;".toList) :=
    Dialect.keyword_of_stop hwords huser hspace "A;".toList
  have hread : Directive.read? (.withKeywords ["use", "user"]) "user A;".toList =
      some (⟨"user".toList, "A".toList, false, none⟩, []) := by
    rw [Directive.read?, hkeyword]
    decide +kernel
  have hparse : Directive.parse (.withKeywords ["use", "user"]) "user A;".toList =
      .ok (some ⟨"user".toList, "A".toList, false, none⟩) := by
    rw [Directive.parse, Dialect.grammarFault?_of_ordinary (by decide)]
    exact congrArg Except.ok (Directive.parse?_of_read? (by decide) hread)
  obtain ⟨hlines, -, hkeywords⟩ := keyword_order hwords hsame
  exact ⟨hwords, hsame, hkeeps, hafter, hparse, (hlines _).trans hparse,
    hkeywords hkeeps _ _ _ hafter hparse⟩

/-- A dialect whose mark closes the pattern of names and goes on with a rule for keywords. -/
def withKeywordRule : Dialect where
  importKeywords := ["using"]
  escapeMark := "@\"\nkeyword = \"using x\" #"

/-- With a rule for keywords of its own, the grammar reads another keyword than the header sees. -/
theorem keyword_order_keywordRule :
    ¬ ∀ (dialect : Dialect) (words : List String),
      (∀ word ∈ dialect.importKeywords, word ≠ "" ∧ ∀ c ∈ word.toList, isSpace c = false) →
      (∀ word, word ∈ words ↔ word ∈ dialect.importKeywords) →
      (∀ line, Directive.parse (dialect.reworded words) line = Directive.parse dialect line) ∧
        (∀ text, scanNames (dialect.reworded words) text = scanNames dialect text) ∧
        ∀ line body directive, afterKeyword? dialect.importKeywords line = some body →
          Directive.parse dialect line = .ok (some directive) →
            line = directive.keyword ++ body := by
  intro h
  have hwords : ∀ word ∈ withKeywordRule.importKeywords,
      word ≠ "" ∧ ∀ c ∈ word.toList, isSpace c = false := by
    simp [withKeywordRule, isSpace, isBlank]
  have hchoices : withKeywordRule.keywordChoices = ["using".toList] := by
    simp [Dialect.keywordChoices, withKeywordRule]
  have hfault : withKeywordRule.grammarFault? = none := by
    rw [Dialect.grammarFault?, Dialect.grammarTrouble?, Dialect.ruleBook, Dialect.leadingRules,
      hchoices]
    decide +kernel
  have hparse : Directive.parse withKeywordRule "using x @;".toList =
      .ok (some ⟨"using x".toList, "@".toList, false, none⟩) := by
    rw [Directive.parse, hfault, Directive.parse?, Dialect.ruleBook, Dialect.leadingRules, hchoices]
    refine congrArg Except.ok ?_
    decide +kernel
  have hafter : afterKeyword? withKeywordRule.importKeywords "using x @;".toList =
      some " x @;".toList := by decide
  obtain ⟨-, -, hkeyword⟩ := h withKeywordRule ["using"] hwords fun _ => Iff.rfl
  exact absurd (hkeyword _ _ _ hafter hparse) (by decide)

end Header

end Vetting
