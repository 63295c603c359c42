import Vetting.Proofs.RuleBook.Alike

/-!
# Vetting.Proofs.RuleBook.Outcome

How a match ends, apart from its fuel, and bodies that match as readers do. A body follows a reader
if it matches where the reader reads, and leaves the same; what its trees tell is carried along. The
bodies that are put together follow readers that are put together in the same way.

* `RuleBook.Settles`: how a match ends with enough fuel.
* `RuleBook.Follows`: a body matches as a reader does; one lemma for each kind of body.
* `RuleBook.match?_of_settles`: with the fuel of a match of a whole rule it ends like that.
-/

namespace Vetting

open Grammar

namespace RuleBook

variable {book : RuleBook} {line : List Char}

/-! ## Outcomes -/

/-- With enough fuel a body matches like that. -/
def Settles (book : RuleBook) (line : List Char) (busy : List String) (body : RuleBody)
    (text : List Char) (outcome : Except Mismatch (RuleTree × List Char)) : Prop :=
  ∃ enough, ∀ fuel, enough ≤ fuel → book.run line fuel busy body text = outcome

/-- With enough fuel bodies match like that, one after the other. -/
def SettlesAll (book : RuleBook) (line : List Char) (busy : List String) (members : List RuleBody)
    (text : List Char) (outcome : Except Mismatch (List RuleTree × List Char)) : Prop :=
  ∃ enough, ∀ fuel, enough ≤ fuel → book.runAll line fuel busy members text = outcome

/-- With enough fuel a body matches like that, as often as it may be, after `count` times. -/
def SettlesTimes (book : RuleBook) (line : List Char) (busy : List String) (body : RuleBody)
    (most : Option Nat) (count : Nat) (text : List Char)
    (outcome : Except Mismatch (List RuleTree × List Char)) : Prop :=
  ∃ enough, ∀ fuel, enough ≤ fuel →
    book.runTimes line fuel busy body 0 most count text = outcome

/-- How a body without parts matches. -/
def leaf (text : List Char) (rest? : Option (List Char)) :
    Except Mismatch (RuleTree × List Char) :=
  match rest? with
  | some rest => .ok (.node "" (Text.consumed text rest) [], rest)
  | none => .error .other

section Outcomes

variable {busy : List String} {text rest : List Char} {tree : RuleTree} {mismatch : Mismatch}

/-- A step of a match, on one more fuel than what comes before it. -/
theorem exists_enough {p q : Nat → Prop} (h : ∃ enough, ∀ fuel, enough ≤ fuel → p fuel)
    (hstep : ∀ fuel, p fuel → q (fuel + 1)) : ∃ enough, ∀ fuel, enough ≤ fuel → q fuel := by
  obtain ⟨enough, henough⟩ := h
  refine ⟨enough + 1, fun fuel hfuel => ?_⟩
  obtain ⟨fuel, rfl⟩ : ∃ k, fuel = k + 1 := ⟨fuel - 1, by omega⟩
  exact hstep fuel (henough fuel (by omega))

theorem exists_enough_both {p q : Nat → Prop} (hp : ∃ enough, ∀ fuel, enough ≤ fuel → p fuel)
    (hq : ∃ enough, ∀ fuel, enough ≤ fuel → q fuel) :
    ∃ enough, ∀ fuel, enough ≤ fuel → p fuel ∧ q fuel := by
  obtain ⟨enough, henough⟩ := hp
  obtain ⟨enough', henough'⟩ := hq
  exact ⟨max enough enough', fun fuel hfuel =>
    ⟨henough fuel (by omega), henough' fuel (by omega)⟩⟩

theorem settles_literal (marker : List Char) :
    book.Settles line busy (.literal marker) text (leaf text (Text.after? marker text)) := by
  refine exists_enough ⟨0, fun _ _ => trivial⟩ fun fuel _ => ?_
  rw [run]
  rfl

theorem settles_pattern (pattern : Pattern) :
    book.Settles line busy (.pattern pattern) text
      (leaf text (pattern.rest? (Text.consumed line text).reverse text)) := by
  refine exists_enough ⟨0, fun _ _ => trivial⟩ fun fuel _ => ?_
  rw [run]
  rfl

/-- A choice of literals is the first of them that the text starts with. -/
theorem settles_literals (choices : List (List Char)) :
    book.Settles line busy (.choice (choices.map .literal)) text
      (match firstLiteral choices text with
        | some found => .ok (.node "" found.1 [.node "" found.1 []], found.2)
        | none => .error .other) :=
  ⟨_, fun _ hfuel => run_literals hfuel⟩

theorem Settles.reference {name found : String} {body : RuleBody}
    {outcome : Except Mismatch (RuleTree × List Char)} (hfind : book.find name = .ok (found, body))
    (hidle : busy.contains found = false)
    (h : book.Settles line (found :: busy) body text outcome) :
    book.Settles line busy (.reference name) text
      (outcome.map fun (tree, rest) => (tree.named found, rest)) := by
  refine exists_enough h fun fuel hbody => ?_
  simp only [run, hfind, hidle, Bool.false_eq_true, if_false, hbody]
  cases outcome <;> rfl

theorem Settles.sequence {members : List RuleBody}
    {outcome : Except Mismatch (List RuleTree × List Char)}
    (h : book.SettlesAll line busy members text outcome) :
    book.Settles line busy (.sequence members) text
      (outcome.map fun (trees, rest) => (.node "" (Text.consumed text rest) trees, rest)) := by
  refine exists_enough h fun fuel hmembers => ?_
  simp only [run, hmembers]
  cases outcome <;> rfl

theorem settlesAll_nil : book.SettlesAll line busy [] text (.ok ([], text)) :=
  exists_enough ⟨0, fun _ _ => trivial⟩ fun _ _ => rfl

theorem SettlesAll.cons_error {body : RuleBody} (more : List RuleBody)
    (h : book.Settles line busy body text (.error mismatch)) :
    book.SettlesAll line busy (body :: more) text (.error mismatch) := by
  refine exists_enough h fun fuel hbody => ?_
  simp only [runAll, hbody]
  rfl

theorem SettlesAll.cons {body : RuleBody} {more : List RuleBody}
    {outcome : Except Mismatch (List RuleTree × List Char)}
    (h : book.Settles line busy body text (.ok (tree, rest)))
    (hmore : book.SettlesAll line (stillBusy busy text rest) more rest outcome) :
    book.SettlesAll line busy (body :: more) text
      (outcome.map fun (trees, last) => (tree :: trees, last)) := by
  refine exists_enough (exists_enough_both h hmore) fun fuel hboth => ?_
  simp only [runAll, hboth.1, bind, Except.bind, hboth.2]
  cases outcome <;> rfl

variable {body : RuleBody} {most : Option Nat} {count : Nat}

theorem Settles.times {outcome : Except Mismatch (List RuleTree × List Char)}
    (h : book.SettlesTimes line busy body most 0 text outcome) :
    book.Settles line busy (.times body 0 most) text
      (outcome.map fun (trees, rest) => (.node "" (Text.consumed text rest) trees, rest)) := by
  refine exists_enough h fun fuel htimes => ?_
  simp only [run, htimes]
  cases outcome <;> rfl

/-- At the end, or behind as many matches as there may be, there is no other one. -/
theorem settlesTimes_of_end (h : text.isEmpty = true ∨ most.any (· ≤ count) = true) :
    book.SettlesTimes line busy body most count text (.ok ([], text)) := by
  refine exists_enough ⟨0, fun _ _ => trivial⟩ fun fuel _ => ?_
  rcases h with h | h <;> simp [runTimes, h]

theorem SettlesTimes.stop (h : book.Settles line busy body text (.error .other)) :
    book.SettlesTimes line busy body most count text (.ok ([], text)) := by
  refine exists_enough h fun fuel hbody => ?_
  simp only [runTimes, hbody, Nat.zero_le, if_true, ite_self]

theorem SettlesTimes.step {outcome : Except Mismatch (List RuleTree × List Char)}
    (hmost : most.any (· ≤ count) = false)
    (h : book.Settles line busy body text (.ok (tree, rest))) (hshorter : rest.length < text.length)
    (hmore : book.SettlesTimes line [] body most (count + 1) rest outcome) :
    book.SettlesTimes line busy body most count text
      (outcome.map fun (trees, last) => (tree :: trees, last)) := by
  have hsome : text.isEmpty = false := by
    cases text with
    | nil => cases hshorter
    | cons c text => rfl
  refine exists_enough (exists_enough_both h hmore) fun fuel hboth => ?_
  simp only [runTimes, hsome, hmost, Bool.or_false, Bool.false_eq_true, if_false, hboth.1,
    hshorter, if_true, bind, Except.bind, hboth.2]
  cases outcome <;> rfl

/-- A match that takes nothing stands for all that are to come. -/
theorem SettlesTimes.last (hsome : text.isEmpty = false) (hmost : most.any (· ≤ count) = false)
    (h : book.Settles line busy body text (.ok (tree, rest)))
    (hnot : ¬ rest.length < text.length) :
    book.SettlesTimes line busy body most count text (.ok ([tree], rest)) := by
  refine exists_enough h fun fuel hbody => ?_
  simp [runTimes, hsome, hmost, hbody, hnot]

end Outcomes

/-! ## Bodies that follow readers -/

/-- Below the rules `above`, a body matches as a reader does, and its trees tell what they should of
what was read and what is left. -/
structure Follows (book : RuleBook) (line : List Char) (above : List String) (body : RuleBody)
    (rule : Rule) (tells : List Char → List Char → RuleTree → Prop) : Prop where
  reads : ∀ {busy text rest}, busy ⊆ above → rule text = some rest →
    ∃ tree, tells text rest tree ∧ book.Settles line busy body text (.ok (tree, rest))
  fails : ∀ {busy text}, busy ⊆ above → rule text = none →
    book.Settles line busy body text (.error .other)

/-- The same for bodies one after the other. -/
structure FollowsAll (book : RuleBook) (line : List Char) (above : List String)
    (members : List RuleBody) (rule : Rule)
    (tells : List Char → List Char → List RuleTree → Prop) : Prop where
  reads : ∀ {busy text rest}, busy ⊆ above → rule text = some rest →
    ∃ trees, tells text rest trees ∧ book.SettlesAll line busy members text (.ok (trees, rest))
  fails : ∀ {busy text}, busy ⊆ above → rule text = none →
    book.SettlesAll line busy members text (.error .other)

/-- A tree of what was read, without parts. -/
def IsLeaf (text rest : List Char) (tree : RuleTree) : Prop :=
  tree = .node "" (Text.consumed text rest) []

section Follows

variable {above : List String} {body : RuleBody} {members : List RuleBody} {rule next : Rule}
  {tells : List Char → List Char → RuleTree → Prop}
  {tellsAll : List Char → List Char → List RuleTree → Prop}

theorem follows_of_leaf
    (h : ∀ {busy text}, book.Settles line busy body text (leaf text (rule text))) :
    book.Follows line above body rule IsLeaf where
  reads := by
    intro busy text rest _ hrule
    have hbody := @h busy text
    rw [hrule] at hbody
    exact ⟨_, rfl, hbody⟩
  fails := by
    intro busy text _ hrule
    have hbody := @h busy text
    rw [hrule] at hbody
    exact hbody

theorem follows_literal (marker : List Char) :
    book.Follows line above (.literal marker) (Text.after? marker) IsLeaf :=
  follows_of_leaf (settles_literal marker)

theorem follows_pattern (pattern : Pattern) :
    book.Follows line above (.pattern pattern) (patternedName pattern line) IsLeaf :=
  follows_of_leaf (settles_pattern pattern)

theorem follows_literals (choices : List (List Char)) :
    book.Follows line above (.choice (choices.map .literal))
      (fun text => (firstLiteral choices text).map (·.2))
      (fun text rest tree => firstLiteral choices text = some (tree.text, rest)) where
  reads := by
    intro busy text rest _ hrule
    obtain ⟨⟨literal, last⟩, hfirst, rfl⟩ := Option.map_eq_some_iff.1 hrule
    have hbody := @settles_literals book line busy text choices
    rw [hfirst] at hbody
    exact ⟨.node "" literal [.node "" literal []], hfirst, hbody⟩
  fails := by
    intro busy text _ hrule
    have hbody := @settles_literals book line busy text choices
    rw [Option.map_eq_none_iff.1 hrule] at hbody
    exact hbody

theorem Follows.reference {name found : String} (hfind : book.find name = .ok (found, body))
    (hidle : found ∉ above) (h : book.Follows line (found :: above) body rule tells) :
    book.Follows line above (.reference name) rule
      (fun text rest tree => ∃ inner, tells text rest inner ∧ tree = inner.named found) where
  reads := by
    intro busy text rest hbusy hrule
    obtain ⟨inner, htells, hbody⟩ := h.reads (List.cons_subset_cons found hbusy) hrule
    have hcontains : busy.contains found = false := by
      simpa using fun hmem => hidle (hbusy hmem)
    exact ⟨_, ⟨inner, htells, rfl⟩, Settles.reference hfind hcontains hbody⟩
  fails := by
    intro busy text hbusy hrule
    have hcontains : busy.contains found = false := by
      simpa using fun hmem => hidle (hbusy hmem)
    exact Settles.reference hfind hcontains (h.fails (List.cons_subset_cons found hbusy) hrule)

theorem FollowsAll.sequence (h : book.FollowsAll line above members rule tellsAll) :
    book.Follows line above (.sequence members) rule
      (fun text rest tree => ∃ trees, tellsAll text rest trees ∧
        tree = .node "" (Text.consumed text rest) trees) where
  reads := by
    intro busy text rest hbusy hrule
    obtain ⟨trees, htells, hmembers⟩ := h.reads hbusy hrule
    exact ⟨_, ⟨trees, htells, rfl⟩, Settles.sequence hmembers⟩
  fails := fun hbusy hrule => Settles.sequence (h.fails hbusy hrule)

theorem followsAll_nil :
    book.FollowsAll line above [] some (fun _ _ trees => trees = []) where
  reads := by
    rintro busy text rest - ⟨⟩
    exact ⟨_, rfl, settlesAll_nil⟩
  fails := by
    rintro busy text - ⟨⟩

theorem stillBusy_subset {busy : List String} (h : busy ⊆ above) (text rest : List Char) :
    stillBusy busy text rest ⊆ above := by
  rw [stillBusy]
  split
  · exact List.nil_subset above
  · exact h

theorem Follows.cons (h : book.Follows line above body rule tells)
    (hmore : book.FollowsAll line above members next tellsAll) :
    book.FollowsAll line above (body :: members) (fun text => (rule text).bind next)
      (fun text rest trees => ∃ mid tree others, rule text = some mid ∧ tells text mid tree ∧
        tellsAll mid rest others ∧ trees = tree :: others) where
  reads := by
    intro busy text rest hbusy hrule
    obtain ⟨mid, hmid, hrest⟩ := Option.bind_eq_some_iff.1 hrule
    obtain ⟨tree, htells, hbody⟩ := h.reads hbusy hmid
    obtain ⟨others, htellsAll, hothers⟩ := hmore.reads (stillBusy_subset hbusy text mid) hrest
    exact ⟨_, ⟨mid, tree, others, hmid, htells, htellsAll, rfl⟩, SettlesAll.cons hbody hothers⟩
  fails := by
    intro busy text hbusy hrule
    cases hmid : rule text with
    | none => exact SettlesAll.cons_error members (h.fails hbusy hmid)
    | some mid =>
      rw [hmid] at hrule
      obtain ⟨tree, -, hbody⟩ := h.reads hbusy hmid
      exact SettlesAll.cons hbody (hmore.fails (stillBusy_subset hbusy text mid) hrule)

theorem isEmpty_eq_false_of_reads {text rest : List Char} (hend : rule [] = none)
    (h : rule text = some rest) : text.isEmpty = false := by
  cases text with
  | nil => cases hend.symm.trans h
  | cons c text => rfl

/-- A body that may be missing. Nothing of it is read at the end of a text. -/
theorem Follows.maybe (h : book.Follows line above body rule tells) (hend : rule [] = none) :
    book.Follows line above (.times body 0 (some 1)) (fun text => some ((rule text).getD text))
      (fun text rest tree => rule text = none ∧ tree.children = [] ∨
        ∃ inner, rule text = some rest ∧ tells text rest inner ∧ tree.children = [inner]) where
  reads := by
    rintro busy text - hbusy ⟨⟩
    cases hrule : rule text with
    | none =>
      exact ⟨.node "" (Text.consumed text text) [], .inl ⟨rfl, rfl⟩,
        Settles.times (SettlesTimes.stop (h.fails hbusy hrule))⟩
    | some rest =>
      obtain ⟨inner, htells, hbody⟩ := h.reads hbusy hrule
      have hsome := isEmpty_eq_false_of_reads hend hrule
      have htimes : book.SettlesTimes line busy body (some 1) 0 text (.ok ([inner], rest)) := by
        by_cases hshorter : rest.length < text.length
        · exact SettlesTimes.step rfl hbody hshorter (settlesTimes_of_end (.inr rfl))
        · exact SettlesTimes.last hsome rfl hbody hshorter
      exact ⟨.node "" (Text.consumed text rest) [inner], .inr ⟨inner, rfl, htells, rfl⟩,
        Settles.times htimes⟩
  fails := by
    rintro busy text - ⟨⟩

/-- A body as often as it matches. Nothing of it is read at the end of a text. -/
theorem Follows.many (h : book.Follows line above body rule tells) (hend : rule [] = none) :
    book.Follows line above (.times body 0 none) (fun text => some (Grammar.many rule text))
      (fun _ _ _ => True) where
  reads := by
    have htimes : ∀ {busy text count}, busy ⊆ above → ∃ trees,
        book.SettlesTimes line busy body none count text
          (.ok (trees, Grammar.many rule text)) := by
      -- on the length of the text, which every match but the last one makes shorter
      intro busy text count hbusy
      induction hlength : text.length using Nat.strongRecOn generalizing busy text count with
      | _ length ih =>
        rw [many.eq_def]
        cases hrule : rule text with
        | none => exact ⟨[], SettlesTimes.stop (h.fails hbusy hrule)⟩
        | some rest =>
          obtain ⟨tree, -, hbody⟩ := h.reads hbusy hrule
          by_cases hshorter : rest.length < text.length
          · obtain ⟨trees, hmore⟩ := @ih _ (hlength ▸ hshorter) [] rest (count + 1)
              (List.nil_subset above) rfl
            simp only [if_pos hshorter]
            exact ⟨tree :: trees, SettlesTimes.step rfl hbody hshorter hmore⟩
          · simp only [if_neg hshorter]
            have hsome := isEmpty_eq_false_of_reads hend hrule
            exact ⟨[tree], SettlesTimes.last hsome rfl hbody hshorter⟩
    rintro busy text - hbusy ⟨⟩
    obtain ⟨trees, hmany⟩ := htimes hbusy
    exact ⟨_, trivial, Settles.times hmany⟩
  fails := by
    rintro busy text - ⟨⟩

theorem Follows.congr {other : Rule} (h : book.Follows line above body rule tells)
    (hsame : ∀ text, rule text = other text) : book.Follows line above body other tells := by
  rwa [← funext hsame]

theorem FollowsAll.congr {other : Rule} (h : book.FollowsAll line above members rule tellsAll)
    (hsame : ∀ text, rule text = other text) :
    book.FollowsAll line above members other tellsAll := by
  rwa [← funext hsame]

theorem Follows.imp {retells : List Char → List Char → RuleTree → Prop}
    (h : book.Follows line above body rule tells)
    (himp : ∀ {text rest tree}, tells text rest tree → retells text rest tree) :
    book.Follows line above body rule retells where
  reads := by
    intro busy text rest hbusy hrule
    obtain ⟨tree, htells, hbody⟩ := h.reads hbusy hrule
    exact ⟨tree, himp htells, hbody⟩
  fails := h.fails

theorem FollowsAll.imp {retells : List Char → List Char → List RuleTree → Prop}
    (h : book.FollowsAll line above members rule tellsAll)
    (himp : ∀ {text rest trees}, rule text = some rest → tellsAll text rest trees →
      retells text rest trees) :
    book.FollowsAll line above members rule retells where
  reads := by
    intro busy text rest hbusy hrule
    obtain ⟨trees, htells, hmembers⟩ := h.reads hbusy hrule
    exact ⟨trees, himp hrule htells, hmembers⟩
  fails := h.fails

end Follows

/-- With the fuel of a match, a rule matches as with any that is enough. -/
theorem match?_of_settles {name : String} {text : List Char}
    {outcome : Except Mismatch (RuleTree × List Char)}
    (h : book.Settles text [] (.reference name) text outcome) :
    book.match? name text = outcome.toOption := by
  obtain ⟨enough, henough⟩ := h
  rw [match?_eq_of_le book name (Nat.le_max_left _ enough), henough _ (Nat.le_max_right _ _)]

end RuleBook

end Vetting
