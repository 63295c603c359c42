import Mathlib
import Vetting.Directive
import Vetting.Proofs.RuleBook.Outcome
import Vetting.Proofs.Text.Pattern

/-!
# Vetting.Proofs.Directive.Rules

A directive is read as the rules of the grammar say. `Directive.read?` reads by functions, one for
each rule; `Dialect.bookOf` holds the same rules as data, behind them the pattern of names in one of
their forms. Every rule of the book follows the function that stands for it.

* `Directive.parseBy?_bookOf`: in every dialect that has names, matching a line by the book gives
  what the functions read of it.
* `Dialect.ruleBook_of_escapeMark`: with the usual escape mark the book is the grammar of the
  dialect, whose last rules are read from text.
* `Dialect.parse?_eq_parseBy?_ruleBook`: so lines are read there as that grammar says.
-/

namespace Vetting

open Grammar

/-! ## Patterns of the grammar -/

/-- The characters that names start with. -/
def nameStarts : CharSet :=
  { isNegated := true, entries := [.ofKind .word true, .ofKind .decimal false] }

/-- A name without an escape mark, as a pattern. -/
def barePattern : Pattern :=
  .both (.one nameStarts) (.times (.one (.ofKind .word false)) 0 none .more)

namespace NameForm

/-- Names of a form, as a pattern. -/
def pattern : NameForm → Pattern
  | bare => barePattern
  | marked mark => .both (.times (.one (.single mark.toNat)) 0 (some 1) .more) barePattern
  | patterned pattern => pattern

end NameForm

section Patterns

theorem admits_nameStarts : nameStarts.admits = isNameStart := by
  funext c
  simp [nameStarts, CharSet.admits, SetEntry.admits, CharKind.admits, isNameStart]

theorem admits_ofKind (kind : CharKind) :
    (CharSet.ofKind kind false).admits = fun c => kind.admits c := by
  funext c
  simp [CharSet.ofKind, CharSet.admits, SetEntry.admits]

theorem admits_words : (CharSet.ofKind .word false).admits = isWord := admits_ofKind .word

theorem admits_blanks : (CharSet.ofKind .blank false).admits = isBlank := admits_ofKind .blank

theorem admits_single (mark c : Char) :
    (CharSet.single mark.toNat).admits c = decide (c = mark) := by
  have hnat : mark.toNat ≤ c.toNat ∧ c.toNat ≤ mark.toNat ↔ c = mark := by
    rw [← Char.toNat_inj]
    omega
  simp [CharSet.single, CharSet.admits, SetEntry.admits, ← hnat, Bool.decide_and]

theorem admits_level : CharSet.level.admits = (· != '\n') := by
  funext c
  have hnegated : CharSet.level.admits c = !(CharSet.single '\n'.toNat).admits c := by
    simp [CharSet.level, CharSet.single, CharSet.admits]
  rw [hnegated, admits_single]
  rfl

variable (before text : List Char)

/-- From any place on, the pattern of a name leaves what the name leaves. -/
theorem run_barePattern (start : Nat) (kept : List (Nat × List Char)) :
    (barePattern.run some ⟨before, text, start, kept⟩).map (·.ahead) = bareName text := by
  cases text with
  | nil => rfl
  | cons c text =>
    rw [barePattern, Pattern.run_both, Pattern.run_one_cons, admits_nameStarts, Pattern.run_many,
      admits_words, bareName]
    split <;> rfl

theorem patternedName_pattern (form : NameForm) (line : List Char) :
    patternedName form.pattern line = form.rule line := by
  funext text
  cases form with
  | bare => exact run_barePattern _ text _ _
  | marked mark =>
    rw [patternedName, Pattern.rest?, NameForm.pattern, Pattern.run_both]
    cases text with
    | nil => rfl
    | cons c text =>
      rw [Pattern.run_maybe, admits_single, NameForm.rule, maybeMarkedName]
      by_cases hmark : c = mark
      · simp only [hmark, decide_true, if_true]
        rw [Option.map_or, run_barePattern, run_barePattern]
      · simp only [hmark, decide_false, Bool.false_eq_true, if_false]
        exact run_barePattern _ _ _ _
  | patterned pattern => rfl

theorem rest?_blanks :
    (Pattern.times (.one (.ofKind .blank false)) 1 none .more).rest? before text = blanks text := by
  cases text with
  | nil => rfl
  | cons c text =>
    rw [Pattern.rest?, Pattern.run_atLeastOne, Pattern.run_many, admits_blanks, blanks]
    split <;> rfl

theorem rest?_gap :
    (Pattern.times (.one (.ofKind .blank false)) 0 none .more).rest? before text =
      some (gap text) := by
  rw [Pattern.rest?, Pattern.run_many, admits_blanks]
  rfl

theorem rest?_level :
    (Pattern.times (.one .level) 0 none .more).rest? before text =
      some (text.dropWhile (· != '\n')) := by
  rw [Pattern.rest?, Pattern.run_many, admits_level]
  rfl

end Patterns

/-! ## Parts that may be missing

None of them matches at the end of a text, where the rules do not look for them. -/

theorem staticClause_nil (dialect : Dialect) : dialect.staticClause [] = none := by
  rw [Dialect.staticClause]
  cases dialect.staticKeyword.toList <;> rfl

theorem aliasClause_nil (form : NameForm) (line : List Char) :
    aliasClause (form.rule line) [] = none := by
  rw [aliasClause]
  cases hname : form.rule line [] with
  | none => rfl
  | some rest =>
    rw [← patternedName_pattern] at hname
    obtain rfl := List.eq_nil_of_length_eq_zero
      (Nat.le_zero.1 (Pattern.length_le_of_rest? hname))
    rfl

theorem qualifier_nil (dialect : Dialect) : dialect.qualifier [] = none := by
  rw [Dialect.qualifier]
  split
  · rfl
  · next hqualifier =>
    cases hlist : dialect.rootQualifier.toList with
    | nil => simp [← String.toList_eq_nil_iff, hlist] at hqualifier
    | cons c more => rfl

/-! ## The book of a dialect -/

namespace Dialect

/-- The rule for names of a form and those after it. -/
def trailingRules (form : NameForm) : List (String × RuleBody) :=
  [("name", .pattern form.pattern),
   ("ws", .pattern (.times (.one (.ofKind .blank false)) 1 none .more)),
   ("_", .pattern (.times (.one (.ofKind .blank false)) 0 none .more)),
   ("rest", .pattern (.times (.one .level) 0 none .more))]

/-- The rules of a dialect as data, where names are written in a form. -/
def bookOf (dialect : Dialect) (form : NameForm) : RuleBook :=
  ⟨dialect.leadingRules ++ trailingRules form⟩

/-- Every rule of the book is found under its name. -/
theorem find_bookOf (dialect : Dialect) (form : NameForm) :
    ∀ rule ∈ (dialect.bookOf form).rules, (dialect.bookOf form).find rule.1 = .ok rule := by
  intro rule hrule
  simp only [bookOf, leadingRules, trailingRules, List.cons_append, List.nil_append, List.mem_cons,
    List.not_mem_nil, or_false] at hrule
  rcases hrule with rfl | rfl | rfl | rfl | rfl | rfl | rfl | rfl | rfl | rfl | rfl <;> rfl

end Dialect

namespace RuleBook

variable {dialect : Dialect} {form : NameForm} {line : List Char} {above : List String}

theorem Follows.rule {name : String} {body : RuleBody} {rule : Rule}
    {tells : List Char → List Char → RuleTree → Prop}
    (h : (dialect.bookOf form).Follows line (name :: above) body rule tells)
    (hmem : (name, body) ∈ (dialect.bookOf form).rules) (hidle : name ∉ above) :
    (dialect.bookOf form).Follows line above (.reference name) rule
      (fun text rest tree => ∃ inner, tells text rest inner ∧ tree = inner.named name) :=
  h.reference (dialect.find_bookOf form (name, body) hmem) hidle

/-- The tree holds what was read. -/
def HoldsRead (text rest : List Char) (tree : RuleTree) : Prop :=
  tree.text = Text.consumed text rest

theorem follows_patternRule {name : String} {pattern : Pattern}
    (hmem : (name, .pattern pattern) ∈ Dialect.trailingRules form) (hidle : name ∉ above) :
    (dialect.bookOf form).Follows line above (.reference name) (patternedName pattern line)
      HoldsRead :=
  ((follows_pattern pattern).rule (List.mem_append_right _ hmem) hidle).imp (by
    rintro text rest tree ⟨inner, rfl, rfl⟩
    rfl)

theorem follows_name (hidle : "name" ∉ above) :
    (dialect.bookOf form).Follows line above (.reference "name") (form.rule line) HoldsRead :=
  patternedName_pattern form line ▸ follows_patternRule (by simp [Dialect.trailingRules]) hidle

theorem follows_blanks (hidle : "ws" ∉ above) :
    (dialect.bookOf form).Follows line above (.reference "ws") blanks HoldsRead :=
  (follows_patternRule (by simp [Dialect.trailingRules]) hidle).congr fun text =>
    rest?_blanks _ text

theorem follows_gap (hidle : "_" ∉ above) :
    (dialect.bookOf form).Follows line above (.reference "_") (fun text => some (gap text))
      HoldsRead :=
  (follows_patternRule (by simp [Dialect.trailingRules]) hidle).congr fun text => rest?_gap _ text

theorem follows_rest (hidle : "rest" ∉ above) :
    (dialect.bookOf form).Follows line above (.reference "rest")
      (fun text => some (text.dropWhile (· != '\n'))) HoldsRead :=
  (follows_patternRule (by simp [Dialect.trailingRules]) hidle).congr fun text =>
    rest?_level _ text

theorem follows_keyword (hidle : "keyword" ∉ above) :
    (dialect.bookOf form).Follows line above (.reference "keyword")
      (fun text => (dialect.keyword text).map (·.2))
      (fun text rest tree => tree.name = "keyword" ∧
        dialect.keyword text = some (tree.text, rest)) :=
  ((follows_literals dialect.keywordChoices).rule
    (by simp [Dialect.bookOf, Dialect.leadingRules]) hidle).imp (by
      rintro text rest tree ⟨inner, hliteral, rfl⟩
      exact ⟨RuleTree.name_named _ _, by rw [RuleTree.text_named]; exact hliteral⟩)

/-- Rules with parts hold what was read as well. -/
theorem FollowsAll.rule {name : String} {members : List RuleBody} {rule : Rule}
    {tells : List Char → List Char → List RuleTree → Prop}
    (h : (dialect.bookOf form).FollowsAll line (name :: above) members rule tells)
    (hmem : (name, .sequence members) ∈ (dialect.bookOf form).rules) (hidle : name ∉ above) :
    (dialect.bookOf form).Follows line above (.reference name) rule
      (fun text rest tree => tree.name = name ∧ HoldsRead text rest tree ∧
        tells text rest tree.children) :=
  (h.sequence.rule hmem hidle).imp (by
    rintro text rest tree ⟨inner, ⟨trees, htrees, rfl⟩, rfl⟩
    exact ⟨rfl, rfl, htrees⟩)

theorem follows_staticClause :
    (dialect.bookOf form).Follows line ["directive"] (.reference "static_clause")
      dialect.staticClause (fun _ _ _ => True) := by
  have hmembers : (dialect.bookOf form).FollowsAll line ["static_clause", "directive"]
      [.literal dialect.staticKeyword.toList, .reference "ws"] _ _ :=
    (follows_literal _).cons ((follows_blanks (by decide)).cons followsAll_nil)
  refine ((hmembers.rule (by simp [Dialect.bookOf, Dialect.leadingRules]) (by decide)).congr
    fun text => ?_).imp fun _ => trivial
  simp only [Option.bind_fun_some]
  rfl

theorem follows_dotName :
    (dialect.bookOf form).Follows line ["qualified", "namespace", "directive"]
      (.sequence [.reference "_", .literal ['.'], .reference "_", .reference "name"])
      (dotName (form.rule line)) (fun _ _ _ => True) := by
  have hmembers : (dialect.bookOf form).FollowsAll line ["qualified", "namespace", "directive"]
      [.reference "_", .literal ['.'], .reference "_", .reference "name"] _ _ :=
    (follows_gap (by decide)).cons ((follows_literal _).cons
      ((follows_gap (by decide)).cons ((follows_name (by decide)).cons followsAll_nil)))
  refine (hmembers.sequence.congr fun text => ?_).imp fun _ => trivial
  simp only [Option.bind_some, dotName]
  cases gap text with
  | nil => rfl
  | cons c rest =>
    by_cases hdot : c = '.'
    · subst hdot
      simp [Text.after?]
    · simp [Text.after?, hdot, Ne.symm hdot]

/-- The clause of an alias opens with the name. -/
theorem follows_aliasClause :
    (dialect.bookOf form).Follows line ["directive"] (.reference "alias_clause")
      (aliasClause (form.rule line))
      (fun text _ tree => ∃ name more, tree.children = name :: more ∧
        (form.rule line text).map (fun rest => Text.consumed text rest) = some name.text) := by
  have hmembers : (dialect.bookOf form).FollowsAll line ["alias_clause", "directive"]
      [.reference "name", .reference "_", .literal ['='], .reference "_"] _ _ :=
    (follows_name (by decide)).cons ((follows_gap (by decide)).cons
      ((follows_literal _).cons ((follows_gap (by decide)).cons followsAll_nil)))
  refine ((hmembers.rule (by simp [Dialect.bookOf, Dialect.leadingRules]) (by decide)).congr
    fun text => ?_).imp ?_
  · simp only [Option.bind_some, Option.bind_fun_some, aliasClause, Option.bind_eq_bind]
    congr 1
    funext rest
    cases gap rest with
    | nil => rfl
    | cons c rest =>
      by_cases hsign : c = '='
      · subst hsign
        simp [Text.after?]
      · simp [Text.after?, hsign, Ne.symm hsign]
  · rintro text rest tree ⟨-, -, mid, name, others, hname, hheld, -, htrees⟩
    exact ⟨name, others, htrees, by rw [hname, hheld]; rfl⟩

theorem follows_qualified :
    (dialect.bookOf form).Follows line ["namespace", "directive"] (.reference "qualified")
      (qualified (form.rule line)) (fun _ _ _ => True) := by
  have hmembers : (dialect.bookOf form).FollowsAll line ["qualified", "namespace", "directive"]
      [.reference "name", .times (.sequence
        [.reference "_", .literal ['.'], .reference "_", .reference "name"]) 0 none] _ _ :=
    (follows_name (by decide)).cons ((follows_dotName.many rfl).cons followsAll_nil)
  refine ((hmembers.rule (by simp [Dialect.bookOf, Dialect.leadingRules]) (by decide)).congr
    fun text => ?_).imp fun _ => trivial
  simp only [Option.bind_some, qualified, Option.map_eq_bind]
  rfl

theorem follows_namespace :
    (dialect.bookOf form).Follows line ["directive"] (.reference "namespace")
      (dialect.namespacePath (form.rule line))
      (fun text rest tree => tree.name = "namespace" ∧ HoldsRead text rest tree) := by
  have hqualifier : (dialect.bookOf form).Follows line ["namespace", "directive"]
      (.reference "global_prefix") dialect.qualifier _ :=
    (follows_literal _).rule (by simp [Dialect.bookOf, Dialect.leadingRules]) (by decide)
  have hmembers : (dialect.bookOf form).FollowsAll line ["namespace", "directive"]
      [Dialect.maybe "global_prefix", .reference "qualified"] _ _ :=
    (hqualifier.maybe (qualifier_nil dialect)).cons (follows_qualified.cons followsAll_nil)
  refine ((hmembers.rule (by simp [Dialect.bookOf, Dialect.leadingRules]) (by decide)).congr
    fun text => ?_).imp fun htells => ⟨htells.1, htells.2.1⟩
  simp only [Option.bind_some, Option.bind_fun_some]
  rfl

end RuleBook

namespace Directive

variable {dialect : Dialect} {form : NameForm} {line : List Char}

theorem closing_eq :
    closing = fun text =>
      (Text.after? [';'] (gap text)).bind fun rest => some (rest.dropWhile (· != '\n')) := by
  funext text
  rw [closing]
  cases gap text with
  | nil => rfl
  | cons c rest =>
    by_cases hsign : c = ';'
    · subst hsign
      simp [Text.after?]
    · simp [Text.after?, hsign, Ne.symm hsign]

/-- The name that the clause of an alias gives, if it stands there. -/
def aliasAt? (name : Rule) (text : List Char) : Option (List Char) :=
  (aliasClause name text).bind fun _ => (name text).map fun rest => Text.consumed text rest

theorem readTail?_of_parts {name : Rule} {text afterPath rest : List Char}
    (hpath : dialect.namespacePath name ((aliasClause name text).getD text) = some afterPath)
    (hclosing : closing afterPath = some rest) (keyword : List Char) (isStatic : Bool) :
    readTail? dialect name keyword isStatic text =
      some (⟨keyword,
        canonical dialect (Text.consumed ((aliasClause name text).getD text) afterPath), isStatic,
        aliasAt? name text⟩, rest) := by
  simp only [readTail?, hpath, hclosing, Option.bind_eq_bind, Option.bind_some, aliasAt?]

theorem rest_of_readTail? (name : Rule) (keyword : List Char) (isStatic : Bool)
    (text : List Char) :
    (readTail? dialect name keyword isStatic text).map (·.2) =
      (dialect.namespacePath name ((aliasClause name text).getD text)).bind closing := by
  simp only [readTail?, Option.bind_eq_bind, Option.map_bind]
  congr 1
  funext rest
  dsimp only [Function.comp]
  cases closing rest <;> rfl

/-- A tree for the clause of an alias, which may be missing, and the name in it. -/
def NamesAlias (naming : RuleTree) (alias? : Option (List Char)) : Prop :=
  (naming.children = [] ∧ alias? = none) ∨
    ∃ clause name more, naming.children = [clause] ∧ clause.children = name :: more ∧
      alias? = some name.text

/-- What stands behind the static clause is read as its rules match. -/
theorem followsAll_tail :
    (dialect.bookOf form).FollowsAll line ["directive"]
      [Dialect.maybe "alias_clause", .reference "namespace", .reference "_", .literal [';'],
        .reference "rest"]
      (fun text => (dialect.namespacePath (form.rule line)
        ((aliasClause (form.rule line) text).getD text)).bind closing)
      (fun text rest trees => ∃ naming path more alias?, trees = naming :: path :: more ∧
        path.name = "namespace" ∧ NamesAlias naming alias? ∧ ∀ keyword isStatic,
          readTail? dialect (form.rule line) keyword isStatic text =
            some (⟨keyword, canonical dialect path.text, isStatic, alias?⟩, rest)) := by
  have hmembers : (dialect.bookOf form).FollowsAll line ["directive"]
      [Dialect.maybe "alias_clause", .reference "namespace", .reference "_", .literal [';'],
        .reference "rest"] _ _ :=
    (RuleBook.follows_aliasClause.maybe (aliasClause_nil form line)).cons
      (RuleBook.follows_namespace.cons
        ((RuleBook.follows_gap (by decide)).cons ((RuleBook.follows_literal _).cons
          ((RuleBook.follows_rest (by decide)).cons RuleBook.followsAll_nil))))
  refine (hmembers.congr fun text => ?_).imp ?_
  · simp only [closing_eq, Option.bind_some]
  · rintro text rest _ hrule ⟨_, naming, _, hafter, hnaming, ⟨afterPath, path, more, hpath,
      ⟨hname, hheld⟩, -, rfl⟩, rfl⟩
    obtain rfl := Option.some.inj hafter
    have hclosing : closing afterPath = some rest := by
      rw [hpath] at hrule
      exact hrule
    have hnames : NamesAlias naming (aliasAt? (form.rule line) text) := by
      rcases hnaming with
        ⟨hnone, hchildren⟩ | ⟨clause, hsome, ⟨first, others, hclause, htext⟩, hchildren⟩
      · exact .inl ⟨hchildren, by rw [aliasAt?, hnone]; rfl⟩
      · exact .inr ⟨clause, first, others, hchildren, hclause, by rw [aliasAt?, hsome]; exact htext⟩
    refine ⟨naming, path, more, _, rfl, hname, hnames, fun keyword isStatic => ?_⟩
    rw [readTail?_of_parts hpath hclosing keyword isStatic, hheld]

theorem ofTree?_of_parts {tree keyword blank clause naming path : RuleTree}
    {more : List RuleTree} {alias? : Option (List Char)} (hname : tree.name = "directive")
    (hchildren : tree.children = keyword :: blank :: clause :: naming :: path :: more)
    (hkeyword : keyword.name = "keyword") (hpath : path.name = "namespace")
    (hnames : NamesAlias naming alias?) :
    ofTree? dialect tree =
      some ⟨keyword.text, canonical dialect path.text, !clause.children.isEmpty, alias?⟩ := by
  rw [ofTree?, hname, hchildren]
  rcases hnames with ⟨hnone, rfl⟩ | ⟨inner, name, others, hone, hinner, rfl⟩
  · simp [hkeyword, hpath, hnone]
  · simp [hkeyword, hpath, hone, hinner]

theorem rest_of_read? (name : Rule) (hname : dialect.name line = name) :
    (read? dialect line).map (·.2) =
      ((dialect.keyword line).map (·.2)).bind fun text => (blanks text).bind fun text =>
        (dialect.namespacePath name
          ((aliasClause name ((dialect.staticClause text).getD text)).getD
            ((dialect.staticClause text).getD text))).bind closing := by
  rw [read?, hname]
  cases dialect.keyword line with
  | none => rfl
  | some found =>
    simp only [Option.bind_eq_bind, Option.bind_some, Option.map_some, Option.map_bind]
    congr 1
    funext text
    dsimp only [Function.comp]
    rw [← rest_of_readTail? name found.1 (dialect.staticClause text).isSome]
    cases dialect.staticClause text <;> rfl

/-- The rule for directives matches a line as the line is read, and its tree is that directive. -/
theorem match?_bookOf (hform : dialect.nameForm? = some form) (line : List Char) :
    match read? dialect line with
    | some (directive, rest) => ∃ tree,
        (dialect.bookOf form).match? "directive" line = some (tree, rest) ∧
          ofTree? dialect tree = some directive
    | none => (dialect.bookOf form).match? "directive" line = none := by
  have hname : dialect.name line = form.rule line := by rw [Dialect.name, hform]
  have hmembers : (dialect.bookOf form).FollowsAll line ["directive"]
      [.reference "keyword", .reference "ws", Dialect.maybe "static_clause",
        Dialect.maybe "alias_clause", .reference "namespace", .reference "_", .literal [';'],
        .reference "rest"] _ _ :=
    (RuleBook.follows_keyword (by decide)).cons ((RuleBook.follows_blanks (by decide)).cons
      ((RuleBook.follows_staticClause.maybe (staticClause_nil dialect)).cons followsAll_tail))
  have hdirective := hmembers.rule (by simp [Dialect.bookOf, Dialect.leadingRules])
    List.not_mem_nil
  have hrest := rest_of_read? (form.rule line) hname
  cases hread : read? dialect line with
  | none =>
    rw [hread] at hrest
    exact RuleBook.match?_of_settles (hdirective.fails (List.nil_subset _) hrest.symm)
  | some found =>
    obtain ⟨directive, rest⟩ := found
    rw [hread] at hrest
    obtain ⟨tree, ⟨hdirectiveName, -, htells⟩, hsettles⟩ :=
      hdirective.reads (List.nil_subset _) hrest.symm
    refine ⟨tree, RuleBook.match?_of_settles hsettles, ?_⟩
    obtain ⟨text, keyword, _, -, ⟨hkeywordName, hkeyword⟩, ⟨text', blank, _, hblanks, -,
      ⟨text'', clause, _, hafter, hclause, ⟨naming, path, more, alias?, rfl, hpathName, hnames,
        htail⟩, rfl⟩, rfl⟩, hchildren⟩ := htells
    obtain rfl := Option.some.inj hafter
    rw [ofTree?_of_parts hdirectiveName hchildren hkeywordName hpathName hnames]
    simp only [read?, hname, hkeyword, hblanks, Option.bind_eq_bind, Option.bind_some] at hread
    rcases hclause with ⟨hnone, hnochild⟩ | ⟨inner, hsome, -, hchild⟩
    · rw [hnone] at hread htail
      rw [hnochild]
      exact congrArg (Option.map (·.1)) ((htail _ _).symm.trans hread)
    · rw [hsome] at hread htail
      rw [hchild]
      exact congrArg (Option.map (·.1)) ((htail _ _).symm.trans hread)

/-- Matching a line by the rules gives the directive that is read of the whole line. -/
theorem parseBy?_bookOf (hform : dialect.nameForm? = some form) (line : List Char) :
    parseBy? (dialect.bookOf form) dialect line =
      match read? dialect line with
      | some (directive, []) => some directive
      | _ => none := by
  have hmatch := match?_bookOf hform line
  rw [parseBy?]
  cases hread : read? dialect line with
  | none =>
    rw [hread] at hmatch
    have hnone : (dialect.bookOf form).match? "directive" line = none := hmatch
    rw [hnone]
  | some found =>
    obtain ⟨directive, rest⟩ := found
    rw [hread] at hmatch
    obtain ⟨tree, htree, hdirective⟩ := hmatch
    rw [htree]
    cases rest with
    | nil => exact hdirective
    | cons c rest => rfl

/-- Where the dialect has a grammar, and its escape mark does not rewrite it, a line is the
directive that the rules of the grammar make of it. -/
theorem parse?_eq_parseBy? (hextended : dialect.isExtended = false)
    (htrouble : dialect.grammarTrouble? = none) (hform : dialect.nameForm? = some form)
    (line : List Char) : parse? dialect line = parseBy? (dialect.bookOf form) dialect line := by
  rw [parse?, hextended, htrouble, parseBy?_bookOf hform]
  rfl

end Directive

/-! ## The grammar of a dialect -/

namespace Dialect

variable {dialect : Dialect}

/-- The book is one that rules can make: no body is mistaken, and every rule that is called is
there. -/
theorem ofRules_bookOf (dialect : Dialect) (form : NameForm) :
    RuleBook.ofRules (dialect.bookOf form).rules = .ok (dialect.bookOf form) := by
  have hmistakes : ((dialect.bookOf form).rules.any fun rule => rule.2.hasMistake) = false := by
    simp [bookOf, leadingRules, trailingRules, maybe, RuleBody.hasMistake,
      RuleBody.hasMistake.anyMistake, RuleBody.anyMistake_literals]
  have hrules : (dialect.bookOf form).rules.foldl
      (fun found rule => RuleBook.addRule rule.1 rule.2 found) [] =
        (dialect.bookOf form).rules := rfl
  have hnames : ((dialect.bookOf form).rules.flatMap fun rule => rule.2.names) =
      ["keyword", "ws", "static_clause", "alias_clause", "namespace", "_", "rest", "ws", "name",
        "_", "_", "global_prefix", "qualified", "name", "_", "_", "name"] := by
    simp [bookOf, leadingRules, trailingRules, maybe, RuleBody.names, RuleBody.names.allNames,
      RuleBody.allNames_literals]
  rw [RuleBook.ofRules, hmistakes, hrules]
  simp only [Bool.false_eq_true, if_false, hnames]
  rfl

/-- With the usual escape mark the text of the last rules is read as those that the book holds. -/
theorem readRules_trailingText (h : dialect.escapeMark = "@") :
    RuleBook.readRules dialect.trailingText = .ok (trailingRules (.marked '@')) := by
  have hmark : dialect.escapeMark.toList = ['@'] := by
    rw [h]
    rfl
  have hname : NameForm.patternText dialect.escapeMark.toList = "\\@?[^\\W\\d]\\w*".toList := by
    rw [hmark]
    cbv
  have htext : dialect.trailingText = ("name = ~r\"" ++ "\\@?[^\\W\\d]\\w*" ++
      "\"\nws = ~r\"\\s+\"\n_ = ~r\"\\s*\"\nrest = ~r\".*\"\n").toList := by
    show _ ++ NameForm.patternText dialect.escapeMark.toList ++ _ = _
    rw [hname, String.toList_append, String.toList_append]
  rw [htext]
  cbv

theorem ruleBook_of_escapeMark (h : dialect.escapeMark = "@")
    (hwords : dialect.importKeywords.isEmpty = false) (hliterals : dialect.hasLiterals = true) :
    dialect.ruleBook = .ok (dialect.bookOf (.marked '@')) := by
  rw [ruleBook, hwords, readRules_trailingText h, hliterals]
  exact ofRules_bookOf dialect _

/-- Where names have the usual mark, a dialect that has a grammar has it as rules too, and reads
every line as they do. -/
theorem parse?_eq_parseBy?_ruleBook (h : dialect.escapeMark = "@")
    (htrouble : dialect.grammarTrouble? = none) :
    ∃ book, dialect.ruleBook = .ok book ∧
      ∀ line, Directive.parse? dialect line = Directive.parseBy? book dialect line := by
  have hextended : dialect.isExtended = false := by
    rw [isExtended, h]
    decide
  have hform : dialect.nameForm? = some (.marked '@') := by
    rw [nameForm?, h]
    decide
  have hparts : dialect.importKeywords.isEmpty = false ∧ dialect.hasLiterals = true := by
    rw [grammarTrouble?, hextended] at htrouble
    cases hwords : dialect.importKeywords.isEmpty with
    | true => simp [hwords] at htrouble
    | false =>
      cases hliterals : dialect.hasLiterals with
      | true => exact ⟨rfl, rfl⟩
      | false => simp [hwords, hliterals] at htrouble
  exact ⟨_, ruleBook_of_escapeMark h hparts.1 hparts.2,
    Directive.parse?_eq_parseBy? hextended htrouble hform⟩

end Dialect

end Vetting
