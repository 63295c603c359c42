import Vetting.Proofs.Text.Pattern
import Vetting.RuleBook

/-!
# Vetting.Proofs.RuleBook.Depth

How deep a match of a rule goes. A match never leaves more text than there was, and at one place no
rule is matched inside itself. So what is left of the text, and then what the rules that are not
being matched have in parts, goes down on the way: `RuleBook.need` puts both in one number.

* `RuleBook.shortens`: what a match leaves is no longer than what it was tried on.
* `RuleBook.need_le_fuel`: the fuel of a match is as much as is needed.
-/

namespace Vetting

namespace RuleBody

theorem size_pos (body : RuleBody) : 0 < body.size := by
  cases body <;> simp only [size] <;> omega

theorem sizes_pos (members : List RuleBody) : 0 < size.sizes members := by
  cases members <;> simp only [size.sizes] <;> omega

end RuleBody

namespace RuleBook

theorem bind_eq_ok_iff {ε α β : Type} {first : Except ε α} {next : α → Except ε β} {b : β} :
    first >>= next = .ok b ↔ ∃ a, first = .ok a ∧ next a = .ok b := by
  cases first <;> simp [bind, Except.bind]

variable {book : RuleBook} {line : List Char} {fuel : Nat}

/-! ## What is left -/

/-- Matches with some fuel leave no more than there was. -/
structure Shortens (book : RuleBook) (line : List Char) (fuel : Nat) : Prop where
  run : ∀ {busy body text tree rest},
    book.run line fuel busy body text = .ok (tree, rest) → rest.length ≤ text.length
  runAll : ∀ {busy members text trees rest},
    book.runAll line fuel busy members text = .ok (trees, rest) → rest.length ≤ text.length
  runFirst : ∀ {busy members text tree rest},
    book.runFirst line fuel busy members text = .ok (tree, rest) → rest.length ≤ text.length
  runTimes : ∀ {busy body least most count text trees rest},
    book.runTimes line fuel busy body least most count text = .ok (trees, rest) →
      rest.length ≤ text.length

namespace Shortens

variable {busy : List String} {text rest : List Char}

theorem run_succ (h : Shortens book line fuel) {body : RuleBody} {tree : RuleTree}
    (hrun : book.run line (fuel + 1) busy body text = .ok (tree, rest)) :
    rest.length ≤ text.length := by
  cases body with
  | literal marker =>
    simp only [RuleBook.run] at hrun
    split at hrun
    · next hafter =>
      cases hrun
      rw [Text.after?_eq_some_iff.1 hafter, List.length_append]
      exact Nat.le_add_left _ _
    · cases hrun
  | pattern pattern =>
    simp only [RuleBook.run] at hrun
    split at hrun
    · next hpattern =>
      cases hrun
      exact Pattern.length_le_of_rest? hpattern
    · cases hrun
  | mistaken => cases hrun
  | reference name =>
    simp only [RuleBook.run] at hrun
    split at hrun
    · cases hrun
    · split at hrun
      · cases hrun
      · obtain ⟨⟨tree, rest⟩, hbody, hpure⟩ := bind_eq_ok_iff.1 hrun
        cases hpure
        exact h.run hbody
  | sequence members =>
    simp only [RuleBook.run] at hrun
    obtain ⟨⟨trees, rest⟩, hmembers, hpure⟩ := bind_eq_ok_iff.1 hrun
    cases hpure
    exact h.runAll hmembers
  | choice members =>
    simp only [RuleBook.run] at hrun
    obtain ⟨⟨tree, rest⟩, hmembers, hpure⟩ := bind_eq_ok_iff.1 hrun
    cases hpure
    exact h.runFirst hmembers
  | times body least most =>
    simp only [RuleBook.run] at hrun
    obtain ⟨⟨trees, rest⟩, htimes, hpure⟩ := bind_eq_ok_iff.1 hrun
    cases hpure
    exact h.runTimes htimes
  | ahead isNegated body =>
    simp only [RuleBook.run] at hrun
    split at hrun
    · cases hrun
    · split at hrun
      · cases hrun
        exact Nat.le_refl _
      · cases hrun
    · split at hrun
      · cases hrun
      · cases hrun
        exact Nat.le_refl _

theorem runAll_succ (h : Shortens book line fuel) {members : List RuleBody} {trees : List RuleTree}
    (hrun : book.runAll line (fuel + 1) busy members text = .ok (trees, rest)) :
    rest.length ≤ text.length := by
  cases members with
  | nil =>
    cases hrun
    exact Nat.le_refl _
  | cons body more =>
    simp only [RuleBook.runAll] at hrun
    obtain ⟨⟨tree, next⟩, hbody, hrun⟩ := bind_eq_ok_iff.1 hrun
    obtain ⟨⟨trees, rest⟩, hmore, hpure⟩ := bind_eq_ok_iff.1 hrun
    cases hpure
    exact Nat.le_trans (h.runAll hmore) (h.run hbody)

theorem runFirst_succ (h : Shortens book line fuel) {members : List RuleBody} {tree : RuleTree}
    (hrun : book.runFirst line (fuel + 1) busy members text = .ok (tree, rest)) :
    rest.length ≤ text.length := by
  cases members with
  | nil => cases hrun
  | cons body more =>
    simp only [RuleBook.runFirst] at hrun
    split at hrun
    · exact h.runFirst hrun
    · exact h.run hrun

theorem runTimes_succ (h : Shortens book line fuel) {body : RuleBody} {least count : Nat}
    {most : Option Nat} {trees : List RuleTree}
    (hrun : book.runTimes line (fuel + 1) busy body least most count text = .ok (trees, rest)) :
    rest.length ≤ text.length := by
  have enough : (if least ≤ count then Except.ok ([], text) else .error .other) =
      Except.ok (ε := Mismatch) (trees, rest) → rest.length ≤ text.length := by
    intro henough
    split at henough
    · cases henough
      exact Nat.le_refl _
    · cases henough
  simp only [RuleBook.runTimes] at hrun
  split at hrun
  · exact enough hrun
  · split at hrun
    · cases hrun
    · exact enough hrun
    · next hbody =>
      have hle := h.run hbody
      split at hrun
      · obtain ⟨⟨more, rest⟩, hmore, hpure⟩ := bind_eq_ok_iff.1 hrun
        cases hpure
        exact Nat.le_trans (h.runTimes hmore) hle
      · split at hrun
        · cases hrun
        · cases hrun
          exact hle

end Shortens

theorem shortens (book : RuleBook) (line : List Char) (fuel : Nat) : Shortens book line fuel := by
  induction fuel with
  | zero => constructor <;> intros <;> contradiction
  | succ fuel ih => exact ⟨ih.run_succ, ih.runAll_succ, ih.runFirst_succ, ih.runTimes_succ⟩

/-! ## What is needed -/

/-- How many parts a rule has, if it is not being matched. -/
def idleSize (busy : List String) (rule : String × RuleBody) : Nat :=
  if busy.contains rule.1 then 0 else 1 + rule.2.size

/-- How many parts the rules have that are not being matched. -/
def idle (busy : List String) : List (String × RuleBody) → Nat
  | [] => 0
  | rule :: rules => idleSize busy rule + idle busy rules

theorem idleSize_nil (rule : String × RuleBody) : idleSize [] rule = 1 + rule.2.size := rfl

theorem idleSize_le (busy : List String) (rule : String × RuleBody) :
    idleSize busy rule ≤ 1 + rule.2.size := by
  rw [idleSize]
  split <;> omega

theorem idleSize_cons_le (name : String) (busy : List String) (rule : String × RuleBody) :
    idleSize (name :: busy) rule ≤ idleSize busy rule := by
  by_cases hbusy : busy.contains rule.1 = true
  · rw [idleSize, List.contains_cons, hbusy, Bool.or_true, if_pos rfl]
    exact Nat.zero_le _
  · rw [idleSize.eq_def busy, if_neg hbusy]
    exact idleSize_le _ _

theorem idle_cons_le (name : String) (busy : List String) (rules : List (String × RuleBody)) :
    idle (name :: busy) rules ≤ idle busy rules := by
  induction rules with
  | nil => exact Nat.le_refl _
  | cons rule rules ih => exact Nat.add_le_add (idleSize_cons_le name busy rule) ih

/-- A rule that comes to be matched is idle no longer. -/
theorem idle_cons_add_size {name : String} {body : RuleBody} {rules : List (String × RuleBody)}
    {busy : List String} (hmem : (name, body) ∈ rules) (hidle : busy.contains name = false) :
    idle (name :: busy) rules + (1 + body.size) ≤ idle busy rules := by
  induction rules with
  | nil => cases hmem
  | cons rule rules ih =>
    simp only [idle]
    rcases List.mem_cons.1 hmem with rfl | hmem
    · have hle := idle_cons_le name busy rules
      have hnow : idleSize (name :: busy) (name, body) = 0 := by simp [idleSize]
      have hbefore : idleSize busy (name, body) = 1 + body.size :=
        if_neg (Bool.eq_false_iff.1 hidle)
      omega
    · have hrest := ih hmem
      have hhead := idleSize_cons_le name busy rule
      omega

theorem size_eq (book : RuleBook) : book.size = 1 + idle [] book.rules := by
  have hfold : ∀ (rules : List (String × RuleBody)) (n : Nat),
      rules.foldl (fun n rule => n + 1 + rule.2.size) n = n + idle [] rules := by
    intro rules
    induction rules with
    | nil => exact fun n => rfl
    | cons rule rules ih =>
      intro n
      simp only [List.foldl_cons, ih, idle, idleSize_nil]
      omega
  exact hfold book.rules 1

/-- The fuel that a match needs, `own` of it for what is matched itself. Every character can be
read behind all rules, one in another. -/
def need (book : RuleBook) (busy : List String) (text : List Char) (own : Nat) : Nat :=
  text.length * (2 * (idle [] book.rules + 1)) + 2 * idle busy book.rules + own

variable {busy : List String} {text rest : List Char} {own : Nat}

theorem own_le_need : own ≤ book.need busy text own := Nat.le_add_left _ _

/-- What is a smaller part needs less. -/
theorem need_le_of_lt {part : Nat} (h : book.need busy text own ≤ fuel + 1) (hpart : part < own) :
    book.need busy text part ≤ fuel := by
  simp only [need] at h ⊢
  omega

/-- Behind a character that was read, all rules are idle again. -/
theorem need_shorter (h : rest.length < text.length) :
    book.need [] rest own < book.need busy text own := by
  -- The character is worth what all rules need, so it does not matter which were busy before it.
  have hmul := Nat.mul_le_mul_right (2 * (idle [] book.rules + 1)) h
  rw [Nat.succ_mul] at hmul
  simp only [need]
  omega

theorem need_stillBusy (h : rest.length ≤ text.length) :
    book.need (stillBusy busy text rest) rest own ≤ book.need busy text own := by
  rw [stillBusy]
  split
  · next hlt => exact Nat.le_of_lt (need_shorter hlt)
  · next hnot =>
    rw [need, Nat.le_antisymm h (Nat.le_of_not_lt hnot)]
    exact Nat.le_refl _

theorem need_reference {name : String} {body : RuleBody} (hmem : (name, body) ∈ book.rules)
    (hidle : busy.contains name = false) :
    book.need (name :: busy) text (2 * body.size) < book.need busy text 1 := by
  have hle := idle_cons_add_size hmem hidle
  simp only [need]
  omega

theorem need_le_fuel (book : RuleBook) (text : List Char) :
    book.need [] text 2 ≤ 2 * (text.length + 2) * (book.size + 2) := by
  have hmul : text.length * (2 * (idle [] book.rules + 1)) ≤ text.length * (2 * (book.size + 2)) :=
    Nat.mul_le_mul_left _ (by rw [size_eq]; omega)
  have hfuel : 2 * (text.length + 2) * (book.size + 2) =
      text.length * (2 * (book.size + 2)) + 2 * (2 * (book.size + 2)) := by
    rw [Nat.mul_comm 2, Nat.mul_assoc, Nat.add_mul]
  rw [hfuel, need]
  have hsize := size_eq book
  omega

end RuleBook

end Vetting
