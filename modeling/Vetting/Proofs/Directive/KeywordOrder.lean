import Vetting.Directive
import Vetting.Proofs.Directive.Written
import Vetting.Proofs.RuleBook.Alike

/-!
# Vetting.Proofs.Directive.KeywordOrder

The order of the import keywords makes no difference to the grammar, nor does a keyword that is
named twice: the grammar tries long keywords first, and of two as long only one can stand at a
place. This holds of the rule book of an extended dialect too, since books with such keywords match
alike.

* `Directive.parse_reworded`: a line is parsed alike with the same keywords in another order.
* `Directive.exists_keyword_of_parse?`: the keyword of a parsed line is the one that the grammar
  finds first.
-/

namespace Vetting

open Grammar Text

theorem Grammar.firstLiteral_congr {choices others : List (List Char)}
    (hsorted : choices.Pairwise fun a b => b.length ≤ a.length)
    (hsorted' : others.Pairwise fun a b => b.length ≤ a.length)
    (hsame : ∀ literal, literal ∈ choices ↔ literal ∈ others) (text : List Char) :
    firstLiteral choices text = firstLiteral others text := by
  refine Option.ext fun found => ?_
  obtain ⟨literal, rest⟩ := found
  simp only [firstLiteral_eq_some_iff hsorted, firstLiteral_eq_some_iff hsorted', hsame]

namespace Dialect

/-- The dialect with other import keywords. -/
def reworded (dialect : Dialect) (words : List String) : Dialect :=
  { dialect with importKeywords := words }

section SameWords

variable {dialect : Dialect} {words : List String}
  (hsame : ∀ word, word ∈ words ↔ word ∈ dialect.importKeywords)
include hsame

theorem firstLiteral_reworded (text : List Char) :
    firstLiteral (dialect.reworded words).keywordChoices text =
      firstLiteral dialect.keywordChoices text := by
  refine firstLiteral_congr (pairwise_keywordChoices _) (pairwise_keywordChoices _) ?_ text
  intro literal
  simp only [mem_keywordChoices, reworded, hsame]

theorem keyword_reworded : (dialect.reworded words).keyword = dialect.keyword :=
  funext (firstLiteral_reworded hsame)

theorem isEmpty_reworded :
    (dialect.reworded words).importKeywords.isEmpty = dialect.importKeywords.isEmpty := by
  rw [Bool.eq_iff_iff, List.isEmpty_iff, List.isEmpty_iff, List.eq_nil_iff_forall_not_mem,
    List.eq_nil_iff_forall_not_mem]
  exact forall_congr' fun word => not_congr (hsame word)

theorem hasLiterals_reworded : (dialect.reworded words).hasLiterals = dialect.hasLiterals := by
  rw [Bool.eq_iff_iff, hasLiterals, hasLiterals, List.all_eq_true, List.all_eq_true]
  refine forall_congr' fun word => imp_congr_left ?_
  rw [List.mem_append, List.mem_append]
  exact or_congr_left (hsame word)

theorem leadingRules_reworded :
    List.Forall₂ AlikeRules (dialect.reworded words).leadingRules dialect.leadingRules := by
  exact .cons ⟨rfl, .same _⟩
    (.cons ⟨rfl, .literals (firstLiteral_reworded hsame)⟩ (alikeRules_refl _))

theorem ruleBook_reworded :
    RuleBook.MadeAlike (dialect.reworded words).ruleBook dialect.ruleBook := by
  have htext : (dialect.reworded words).trailingText = dialect.trailingText := rfl
  simp only [ruleBook, isEmpty_reworded hsame, hasLiterals_reworded hsame, htext]
  split
  · exact .inl ⟨_, rfl, rfl⟩
  · cases RuleBook.readRules dialect.trailingText with
    | error trouble => exact .inl ⟨trouble, rfl, rfl⟩
    | ok trailing =>
      cases dialect.hasLiterals with
      | false => exact .inl ⟨_, rfl, rfl⟩
      | true =>
        exact RuleBook.ofRules_alike
          (List.rel_append (leadingRules_reworded hsame) (alikeRules_refl trailing))

theorem grammarTrouble?_reworded :
    (dialect.reworded words).grammarTrouble? = dialect.grammarTrouble? := by
  have hextended : (dialect.reworded words).isExtended = dialect.isExtended := rfl
  have hform : (dialect.reworded words).nameForm? = dialect.nameForm? := rfl
  rw [grammarTrouble?, grammarTrouble?, hextended, isEmpty_reworded hsame,
    hasLiterals_reworded hsame, hform]
  rcases ruleBook_reworded hsame with
    ⟨trouble, hbook, hbook'⟩ | ⟨book, other, hbook, hbook', -⟩
  · rw [hbook, hbook']
  · rw [hbook, hbook']

theorem grammarFault?_reworded :
    (dialect.reworded words).grammarFault? = dialect.grammarFault? := by
  rw [grammarFault?, grammarFault?, grammarTrouble?_reworded hsame]

end SameWords

end Dialect

namespace Directive

variable {dialect : Dialect} {words : List String} {line : List Char} {directive : Directive}

theorem read?_reworded (hsame : ∀ word, word ∈ words ↔ word ∈ dialect.importKeywords)
    (line : List Char) : read? (dialect.reworded words) line = read? dialect line := by
  rw [read?, read?, Dialect.keyword_reworded hsame]
  rfl

theorem parse?_reworded (hsame : ∀ word, word ∈ words ↔ word ∈ dialect.importKeywords)
    (line : List Char) : parse? (dialect.reworded words) line = parse? dialect line := by
  have hextended : (dialect.reworded words).isExtended = dialect.isExtended := rfl
  rw [parse?, parse?, hextended]
  by_cases h : dialect.isExtended = true
  · rw [if_pos h, if_pos h]
    rcases Dialect.ruleBook_reworded hsame with
      ⟨trouble, hbook, hbook'⟩ | ⟨book, other, hbook, hbook', halike⟩
    · rw [hbook, hbook']
      rfl
    · rw [hbook, hbook']
      show parseBy? book (dialect.reworded words) line = parseBy? other dialect line
      rw [parseBy?, parseBy?, RuleBook.match?_eq_of_alike halike]
      rfl
  · rw [if_neg h, if_neg h, Dialect.grammarTrouble?_reworded hsame, read?_reworded hsame]

/-- The same keywords in another order parse a line alike, and raise alike. -/
theorem parse_reworded (hsame : ∀ word, word ∈ words ↔ word ∈ dialect.importKeywords)
    (line : List Char) : parse (dialect.reworded words) line = parse dialect line := by
  rw [parse, parse, Dialect.grammarFault?_reworded hsame, parse?_reworded hsame]

theorem parse?_of_parse (h : parse dialect line = .ok (some directive)) :
    parse? dialect line = some directive := by
  rw [parse] at h
  split at h
  · cases h
  · exact Except.ok.inj h

end Directive

/-! ## The keyword of a tree -/

theorem eq_ok_of_toOption {ε α : Type} {made : Except ε α} {a : α} (h : made.toOption = some a) :
    made = .ok a := by
  cases made with
  | error e => cases h
  | ok b =>
    cases h
    rfl

namespace RuleBook

variable {book : RuleBook} {line text rest : List Char} {fuel : Nat} {busy : List String}
  {tree : RuleTree}

theorem exists_of_match? {name : String} (h : book.match? name text = some (tree, rest)) :
    ∃ fuel, book.run text fuel [] (.reference name) text = .ok (tree, rest) :=
  ⟨_, eq_ok_of_toOption h⟩

theorem exists_of_run_reference {name : String} {body : RuleBody}
    (hfind : book.find name = .ok (name, body))
    (h : book.run line fuel busy (.reference name) text = .ok (tree, rest)) :
    ∃ fuel' inner, book.run line fuel' (name :: busy) body text = .ok (inner, rest) ∧
      tree = inner.named name := by
  cases fuel with
  | zero => cases h
  | succ fuel =>
    simp only [run, hfind] at h
    split at h
    · cases h
    · obtain ⟨⟨inner, rest⟩, hrun, hpure⟩ := bind_eq_ok_iff.1 h
      cases hpure
      exact ⟨fuel, inner, hrun, rfl⟩

theorem exists_of_run_sequence {body : RuleBody} {more : List RuleBody}
    (h : book.run line fuel busy (.sequence (body :: more)) text = .ok (tree, rest)) :
    ∃ fuel' first next trees, book.run line fuel' busy body text = .ok (first, next) ∧
      tree.children = first :: trees := by
  obtain _ | _ | fuel := fuel
  · cases h
  · cases h
  · simp only [run, runAll] at h
    obtain ⟨⟨trees, rest⟩, hall, hpure⟩ := bind_eq_ok_iff.1 h
    obtain ⟨⟨first, next⟩, hfirst, hmore⟩ := bind_eq_ok_iff.1 hall
    obtain ⟨⟨trees, rest⟩, -, hpure'⟩ := bind_eq_ok_iff.1 hmore
    cases hpure
    cases hpure'
    exact ⟨fuel, first, next, _, hfirst, rfl⟩

theorem firstLiteral_of_runFirst {choices : List (List Char)}
    (h : book.runFirst line fuel busy (choices.map .literal) text = .ok (tree, rest)) :
    firstLiteral choices text = some (tree.text, rest) := by
  induction choices generalizing fuel with
  | nil => cases fuel <;> cases h
  | cons marker choices ih =>
    obtain _ | _ | fuel := fuel
    · cases h
    · cases h
    · simp only [List.map_cons, runFirst, run] at h
      rw [firstLiteral]
      cases hafter : Text.after? marker text with
      | none =>
        rw [hafter] at h
        exact ih h
      | some after =>
        rw [hafter] at h
        cases h
        rw [after?_eq_some_iff.1 hafter]
        simp only [RuleTree.text, consumed_append]

theorem firstLiteral_of_run {choices : List (List Char)}
    (h : book.run line fuel busy (.choice (choices.map .literal)) text = .ok (tree, rest)) :
    firstLiteral choices text = some (tree.text, rest) := by
  cases fuel with
  | zero => cases h
  | succ fuel =>
    simp only [run] at h
    obtain ⟨⟨child, rest⟩, hfirst, hpure⟩ := bind_eq_ok_iff.1 h
    have hliteral := firstLiteral_of_runFirst hfirst
    cases hpure
    exact hliteral

end RuleBook

namespace Dialect

/-- The grammar of the dialect has its own rules for a directive and for a keyword, which an escape
mark that closes the pattern of names could replace. -/
def KeepsKeywordRules (dialect : Dialect) : Prop :=
  dialect.isExtended = true → ∀ book, dialect.ruleBook = .ok book →
    ∀ name ∈ ["directive", "keyword"], book.rules.lookup name = dialect.leadingRules.lookup name

/-- A mark of a single character stands behind a backslash, and closes nothing. -/
theorem keepsKeywordRules_of_length {dialect : Dialect}
    (h : dialect.escapeMark.toList.length ≤ 1) : dialect.KeepsKeywordRules := by
  intro hextended
  rw [isExtended] at hextended
  match hmark : dialect.escapeMark.toList, h with
  | [], _ =>
    rw [hmark] at hextended
    exact absurd hextended (by decide)
  | [c], _ =>
    rw [hmark] at hextended
    cases hextended

end Dialect

namespace Directive

variable {dialect : Dialect} {line : List Char} {directive : Directive}

theorem exists_of_ofTree? {tree : RuleTree} (h : ofTree? dialect tree = some directive) :
    ∃ first more, tree.children = first :: more ∧ directive.keyword = first.text := by
  rw [ofTree?] at h
  split at h
  · next first _ _ _ _ _ _ hchildren =>
    refine ⟨first, _, hchildren, ?_⟩
    dsimp only at h
    split at h
    · split at h <;> cases h <;> rfl
    · cases h
  · cases h

theorem exists_keyword_of_parseBy? {book : RuleBook}
    (hkeeps : ∀ name ∈ ["directive", "keyword"],
      book.rules.lookup name = dialect.leadingRules.lookup name)
    (h : parseBy? book dialect line = some directive) :
    ∃ rest, dialect.keyword line = some (directive.keyword, rest) := by
  have hdirective := RuleBook.find_of_lookup ((hkeeps "directive" (by decide)).trans rfl) nofun
  have hkeyword := RuleBook.find_of_lookup ((hkeeps "keyword" (by decide)).trans rfl) nofun
  rw [parseBy?] at h
  split at h
  · next tree hmatch =>
    -- The tree of a directive opens with that of its keyword, and this one with a literal.
    obtain ⟨_, hrun⟩ := RuleBook.exists_of_match? hmatch
    obtain ⟨_, inner, hinner, rfl⟩ := RuleBook.exists_of_run_reference hdirective hrun
    obtain ⟨_, first, next, trees, hfirst, hchildren⟩ := RuleBook.exists_of_run_sequence hinner
    obtain ⟨_, literal, hliteral, rfl⟩ := RuleBook.exists_of_run_reference hkeyword hfirst
    obtain ⟨first, more, hcons, htext⟩ := exists_of_ofTree? h
    rw [RuleTree.children_named, hchildren] at hcons
    obtain rfl := (List.cons.inj hcons).1
    rw [RuleTree.text_named] at htext
    exact ⟨next, htext ▸ RuleBook.firstLiteral_of_run hliteral⟩
  · cases h

theorem keyword_of_readTail? {name : Rule} {keyword text rest : List Char} {isStatic : Bool}
    (h : readTail? dialect name keyword isStatic text = some (directive, rest)) :
    directive.keyword = keyword := by
  simp only [readTail?, Option.bind_eq_bind, Option.bind_eq_some_iff] at h
  obtain ⟨_, -, _, -, h⟩ := h
  cases h
  rfl

theorem exists_keyword_of_read? {rest : List Char}
    (h : read? dialect line = some (directive, rest)) :
    ∃ rest, dialect.keyword line = some (directive.keyword, rest) := by
  simp only [read?, Option.bind_eq_bind, Option.bind_eq_some_iff] at h
  obtain ⟨⟨keyword, behind⟩, hkeyword, text, -, h⟩ := h
  have htail : directive.keyword = keyword := by
    split at h <;> exact keyword_of_readTail? h
  exact ⟨behind, htail ▸ hkeyword⟩

/-- The keyword of a line that is parsed is the one that the grammar finds first. -/
theorem exists_keyword_of_parse? (hkeeps : dialect.KeepsKeywordRules)
    (h : parse? dialect line = some directive) :
    ∃ rest, dialect.keyword line = some (directive.keyword, rest) := by
  rw [parse?] at h
  split at h
  · next hextended =>
    obtain ⟨book, hbook, hparse⟩ := Option.bind_eq_some_iff.1 h
    exact exists_keyword_of_parseBy? (hkeeps hextended book (eq_ok_of_toOption hbook)) hparse
  · split at h
    · cases h
    · split at h
      · next hread =>
        cases h
        exact exists_keyword_of_read? hread
      · cases h

end Directive

end Vetting
