import Mathlib.Data.List.Forall2
import Vetting.Directive.Grammar
import Vetting.Proofs.RuleBook.Depth

/-!
# Vetting.Proofs.RuleBook.Alike

Rule books that match alike. Two books have the same rules, but where one has a choice of literals
the other may have another choice, as long as the same literal is the first to match in every text.
The order of literals of which none hides another makes no difference then, nor does a literal that
stands there twice. The books may differ in size, so a match in one has another fuel than in the
other: the proof goes by induction on the one fuel, with as much as is needed in either.

* `RuleBook.agrees`: what both match with enough fuel, they match alike.
* `RuleBook.match?_eq_of_alike`: alike books match alike.
-/

namespace Vetting

open Grammar

namespace RuleBody

/-- Bodies that match alike. -/
inductive Alike : RuleBody → RuleBody → Prop where
  | same (body : RuleBody) : Alike body body
  | literals {choices others : List (List Char)}
      (h : ∀ text, firstLiteral choices text = firstLiteral others text) :
      Alike (.choice (choices.map .literal)) (.choice (others.map .literal))

theorem anyMistake_literals (choices : List (List Char)) :
    hasMistake.anyMistake (choices.map .literal) = false := by
  induction choices with
  | nil => rfl
  | cons marker choices ih => exact ih

theorem allNames_literals (choices : List (List Char)) :
    names.allNames (choices.map .literal) = [] := by
  induction choices with
  | nil => rfl
  | cons marker choices ih => exact ih

theorem Alike.hasMistake_eq {body body' : RuleBody} (h : body.Alike body') :
    body.hasMistake = body'.hasMistake := by
  cases h with
  | same body => rfl
  | literals _ => simp only [hasMistake, anyMistake_literals]

theorem Alike.names_eq {body body' : RuleBody} (h : body.Alike body') :
    body.names = body'.names := by
  cases h with
  | same body => rfl
  | literals _ => simp only [names, allNames_literals]

end RuleBody

/-- Rules of one name that match alike. -/
def AlikeRules (rule other : String × RuleBody) : Prop :=
  rule.1 = other.1 ∧ rule.2.Alike other.2

theorem alikeRules_refl (rules : List (String × RuleBody)) :
    List.Forall₂ AlikeRules rules rules :=
  List.forall₂_same.2 fun rule _ => ⟨rfl, .same rule.2⟩

namespace RuleBook

variable {book other : RuleBook} {line : List Char} {fuel fuel' : Nat}

/-- Books with the same rules that match alike. -/
def Alike (book other : RuleBook) : Prop := List.Forall₂ AlikeRules book.rules other.rules

/-! ## Choices of literals -/

section Literals

variable {choices : List (List Char)} {busy : List String} {text : List Char}

theorem runFirst_literals (h : choices.length < fuel) :
    book.runFirst line fuel busy (choices.map .literal) text =
      match firstLiteral choices text with
      | some found => .ok (.node "" found.1 [], found.2)
      | none => .error .other := by
  induction choices generalizing fuel with
  | nil =>
    obtain ⟨fuel, rfl⟩ := Nat.exists_eq_add_one_of_ne_zero (Nat.ne_of_gt h)
    rfl
  | cons marker choices ih =>
    rw [List.length_cons] at h
    obtain ⟨fuel, rfl⟩ : ∃ k, fuel = k + 2 := ⟨fuel - 2, by omega⟩
    have hmore := @ih (fuel + 1) (by omega)
    simp only [List.map_cons, runFirst, run, firstLiteral]
    cases hafter : Text.after? marker text with
    | none => simpa using hmore
    | some rest =>
      have htext := Text.after?_eq_some_iff.1 hafter
      simp [htext, Text.consumed_append]

theorem sizes_literals (choices : List (List Char)) :
    RuleBody.size.sizes (choices.map .literal) = 1 + 2 * choices.length := by
  induction choices with
  | nil => rfl
  | cons marker choices ih =>
    simp only [List.map_cons, RuleBody.size.sizes, RuleBody.size, ih, List.length_cons]
    omega

theorem run_literals (h : (RuleBody.choice (choices.map .literal)).size ≤ fuel) :
    book.run line fuel busy (.choice (choices.map .literal)) text =
      match firstLiteral choices text with
      | some found => .ok (.node "" found.1 [.node "" found.1 []], found.2)
      | none => .error .other := by
  rw [RuleBody.size, sizes_literals] at h
  obtain ⟨fuel, rfl⟩ : ∃ k, fuel = k + 1 := ⟨fuel - 1, by omega⟩
  rw [run, runFirst_literals (by omega)]
  cases firstLiteral choices text <;> rfl

end Literals

/-! ## Finding a rule -/

section Find

variable {rules others : List (String × RuleBody)}

theorem mem_of_lookup {name : String} {body : RuleBody} (h : rules.lookup name = some body) :
    (name, body) ∈ rules := by
  obtain ⟨front, back, rfl, -⟩ := List.lookup_eq_some_iff.1 h
  simp

theorem mem_of_findIn {name found : String} {body : RuleBody}
    (h : findIn rules fuel name = .ok (found, body)) : (found, body) ∈ rules := by
  induction fuel generalizing name with
  | zero => cases h
  | succ fuel ih =>
    rw [findIn] at h
    split at h
    · cases h
    · exact ih h
    · next hlookup =>
      cases h
      exact mem_of_lookup hlookup

theorem find_of_lookup {name : String} {body : RuleBody}
    (h : book.rules.lookup name = some body) (hbody : ∀ other, body ≠ .reference other) :
    book.find name = .ok (name, body) := by
  rw [find, findIn, h]
  cases body with
  | reference other => exact absurd rfl (hbody other)
  | _ => rfl

theorem lookup_alike (h : List.Forall₂ AlikeRules rules others) (name : String) :
    (rules.lookup name = none ∧ others.lookup name = none) ∨
      ∃ body body', rules.lookup name = some body ∧ others.lookup name = some body' ∧
        body.Alike body' := by
  induction h with
  | nil => exact .inl ⟨rfl, rfl⟩
  | @cons rule rule' rules others hrule _ ih =>
    obtain ⟨name', body⟩ := rule
    obtain ⟨_, body'⟩ := rule'
    obtain ⟨rfl, hbody⟩ := hrule
    simp only [List.lookup_cons]
    split
    · exact .inr ⟨body, body', rfl, rfl, hbody⟩
    · exact ih

/-- Two searches that fail alike, or find rules of one name that match alike. -/
def FoundAlike (found found' : Except RuleTrouble (String × RuleBody)) : Prop :=
  (∃ trouble, found = .error trouble ∧ found' = .error trouble) ∨
    ∃ name body body', found = .ok (name, body) ∧ found' = .ok (name, body') ∧ body.Alike body'

theorem findIn_alike (h : List.Forall₂ AlikeRules rules others) (fuel : Nat) (name : String) :
    FoundAlike (findIn rules fuel name) (findIn others fuel name) := by
  induction fuel generalizing name with
  | zero => exact .inl ⟨_, rfl, rfl⟩
  | succ fuel ih =>
    simp only [findIn]
    rcases lookup_alike h name with ⟨hnone, hnone'⟩ | ⟨body, body', hbody, hbody', halike⟩
    · rw [hnone, hnone']
      exact .inl ⟨_, rfl, rfl⟩
    · rw [hbody, hbody']
      cases halike with
      | same body =>
        cases body with
        | reference name => exact ih name
        | _ => exact .inr ⟨name, _, _, rfl, rfl, .same _⟩
      | literals hfirst => exact .inr ⟨name, _, _, rfl, rfl, .literals hfirst⟩

theorem find_alike (h : book.Alike other) (name : String) :
    FoundAlike (book.find name) (other.find name) := by
  rw [find, find, h.length_eq]
  exact findIn_alike h _ name

end Find

/-! ## Two matches -/

theorem bind_congr_ok {ε α β : Type} {first : Except ε α} {next next' : α → Except ε β}
    (h : ∀ a, first = .ok a → next a = next' a) : first >>= next = first >>= next' := by
  cases first with
  | error e => rfl
  | ok a => exact h a rfl

/-- Matches in two books agree where there is as much fuel in either as they need. -/
structure Agrees (book other : RuleBook) (line : List Char) (fuel fuel' : Nat) : Prop where
  run : ∀ {busy body text}, book.need busy text (2 * body.size) ≤ fuel →
    other.need busy text (2 * body.size) ≤ fuel' →
      book.run line fuel busy body text = other.run line fuel' busy body text
  runAll : ∀ {busy members text},
    book.need busy text (2 * RuleBody.size.sizes members) ≤ fuel →
    other.need busy text (2 * RuleBody.size.sizes members) ≤ fuel' →
      book.runAll line fuel busy members text = other.runAll line fuel' busy members text
  runFirst : ∀ {busy members text},
    book.need busy text (2 * RuleBody.size.sizes members) ≤ fuel →
    other.need busy text (2 * RuleBody.size.sizes members) ≤ fuel' →
      book.runFirst line fuel busy members text = other.runFirst line fuel' busy members text
  runTimes : ∀ {busy body least most count text},
    book.need busy text (2 * body.size + 1) ≤ fuel →
    other.need busy text (2 * body.size + 1) ≤ fuel' →
      book.runTimes line fuel busy body least most count text =
        other.runTimes line fuel' busy body least most count text

namespace Agrees

variable {busy : List String} {text : List Char}

theorem run_reference (halike : book.Alike other) (h : Agrees book other line fuel fuel')
    {name : String} (hneed : book.need busy text 2 ≤ fuel + 1)
    (hneed' : other.need busy text 2 ≤ fuel' + 1) :
    book.run line (fuel + 1) busy (.reference name) text =
      other.run line (fuel' + 1) busy (.reference name) text := by
  rcases find_alike halike name with
    ⟨trouble, hfound, hfound'⟩ | ⟨name', body, body', hfound, hfound', hbody⟩
  · simp only [RuleBook.run, hfound, hfound']
  · simp only [RuleBook.run, hfound, hfound']
    split
    · rfl
    · next hidle =>
      have hidle := Bool.eq_false_iff.2 hidle
      have hle : book.need (name' :: busy) text (2 * body.size) ≤ fuel :=
        Nat.le_of_lt (Nat.lt_of_lt_of_le (need_reference (mem_of_findIn hfound) hidle)
          (need_le_of_lt hneed (by decide)))
      have hle' : other.need (name' :: busy) text (2 * body'.size) ≤ fuel' :=
        Nat.le_of_lt (Nat.lt_of_lt_of_le (need_reference (mem_of_findIn hfound') hidle)
          (need_le_of_lt hneed' (by decide)))
      have hrun : book.run line fuel (name' :: busy) body text =
          other.run line fuel' (name' :: busy) body' text := by
        -- Only here can the books differ, and a choice of literals does not call other rules.
        cases hbody with
        | same body => exact h.run hle hle'
        | literals hfirst =>
          have hown := Nat.le_trans own_le_need hle
          have hown' := Nat.le_trans own_le_need hle'
          rw [run_literals (by omega), run_literals (by omega), hfirst]
      rw [hrun]

theorem run_succ (halike : book.Alike other) (h : Agrees book other line fuel fuel')
    {body : RuleBody} (hneed : book.need busy text (2 * body.size) ≤ fuel + 1)
    (hneed' : other.need busy text (2 * body.size) ≤ fuel' + 1) :
    book.run line (fuel + 1) busy body text = other.run line (fuel' + 1) busy body text := by
  cases body with
  | literal marker => simp only [RuleBook.run]
  | pattern pattern => simp only [RuleBook.run]
  | mistaken => rfl
  | reference name => exact run_reference halike h hneed hneed'
  | sequence members =>
    rw [RuleBody.size] at hneed hneed'
    have hmembers := @h.runAll busy members text (need_le_of_lt hneed (by omega))
      (need_le_of_lt hneed' (by omega))
    simp only [RuleBook.run, hmembers]
  | choice members =>
    rw [RuleBody.size] at hneed hneed'
    have hmembers := @h.runFirst busy members text (need_le_of_lt hneed (by omega))
      (need_le_of_lt hneed' (by omega))
    simp only [RuleBook.run, hmembers]
  | times body least most =>
    rw [RuleBody.size] at hneed hneed'
    have hbody := @h.runTimes busy body least most 0 text (need_le_of_lt hneed (by omega))
      (need_le_of_lt hneed' (by omega))
    simp only [RuleBook.run, hbody]
  | ahead isNegated body =>
    rw [RuleBody.size] at hneed hneed'
    have hbody := @h.run busy body text (need_le_of_lt hneed (by omega))
      (need_le_of_lt hneed' (by omega))
    simp only [RuleBook.run, hbody]

theorem runAll_succ (h : Agrees book other line fuel fuel') {members : List RuleBody}
    (hneed : book.need busy text (2 * RuleBody.size.sizes members) ≤ fuel + 1)
    (hneed' : other.need busy text (2 * RuleBody.size.sizes members) ≤ fuel' + 1) :
    book.runAll line (fuel + 1) busy members text =
      other.runAll line (fuel' + 1) busy members text := by
  cases members with
  | nil => rfl
  | cons body more =>
    rw [RuleBody.size.sizes] at hneed hneed'
    have hbody := @h.run busy body text (need_le_of_lt hneed (by omega))
      (need_le_of_lt hneed' (by omega))
    simp only [RuleBook.runAll, hbody]
    refine bind_congr_ok fun found hfound => ?_
    have hle := (shortens other line fuel').run hfound
    rw [h.runAll (Nat.le_trans (need_stillBusy hle) (need_le_of_lt hneed (by omega)))
      (Nat.le_trans (need_stillBusy hle) (need_le_of_lt hneed' (by omega)))]

theorem runFirst_succ (h : Agrees book other line fuel fuel') {members : List RuleBody}
    (hneed : book.need busy text (2 * RuleBody.size.sizes members) ≤ fuel + 1)
    (hneed' : other.need busy text (2 * RuleBody.size.sizes members) ≤ fuel' + 1) :
    book.runFirst line (fuel + 1) busy members text =
      other.runFirst line (fuel' + 1) busy members text := by
  cases members with
  | nil => rfl
  | cons body more =>
    rw [RuleBody.size.sizes] at hneed hneed'
    have hbody := @h.run busy body text (need_le_of_lt hneed (by omega))
      (need_le_of_lt hneed' (by omega))
    have hmore := @h.runFirst busy more text (need_le_of_lt hneed (by omega))
      (need_le_of_lt hneed' (by omega))
    simp only [RuleBook.runFirst, hbody, hmore]

theorem runTimes_succ (h : Agrees book other line fuel fuel') {body : RuleBody}
    {least count : Nat} {most : Option Nat}
    (hneed : book.need busy text (2 * body.size + 1) ≤ fuel + 1)
    (hneed' : other.need busy text (2 * body.size + 1) ≤ fuel' + 1) :
    book.runTimes line (fuel + 1) busy body least most count text =
      other.runTimes line (fuel' + 1) busy body least most count text := by
  have hbody := @h.run busy body text (need_le_of_lt hneed (by omega))
    (need_le_of_lt hneed' (by omega))
  -- A round that reads something leaves a text behind which less is needed.
  have hmore : ∀ rest : List Char, rest.length < text.length →
      book.runTimes line fuel [] body least most (count + 1) rest =
        other.runTimes line fuel' [] body least most (count + 1) rest := by
    intro rest hlt
    exact h.runTimes (Nat.le_of_lt_succ (Nat.lt_of_lt_of_le (need_shorter hlt) hneed))
      (Nat.le_of_lt_succ (Nat.lt_of_lt_of_le (need_shorter hlt) hneed'))
  simp only [RuleBook.runTimes, hbody]
  split
  · rfl
  · cases other.run line fuel' busy body text with
    | error mismatch => cases mismatch <;> rfl
    | ok found =>
      dsimp only
      split
      · next hlt => rw [hmore _ hlt]
      · rfl

end Agrees

theorem need_pos {busy : List String} {text : List Char} {own : Nat} (h : 0 < own) :
    ¬ book.need busy text own ≤ 0 :=
  Nat.not_le_of_lt (Nat.lt_of_lt_of_le h own_le_need)

/-- Without fuel nothing is matched, but then there is not as much as is needed. -/
theorem Agrees.of_no_fuel (h : fuel = 0 ∨ fuel' = 0) : Agrees book other line fuel fuel' := by
  have never : ∀ {busy text own}, 0 < own → book.need busy text own ≤ fuel →
      ¬ other.need busy text own ≤ fuel' := by
    rintro busy text own hown hneed hneed'
    rcases h with rfl | rfl
    · exact need_pos hown hneed
    · exact need_pos hown hneed'
  constructor
  · intro busy body text hneed hneed'
    have hpos := body.size_pos
    exact absurd hneed' (never (by omega) hneed)
  · intro busy members text hneed hneed'
    have hpos := RuleBody.sizes_pos members
    exact absurd hneed' (never (by omega) hneed)
  · intro busy members text hneed hneed'
    have hpos := RuleBody.sizes_pos members
    exact absurd hneed' (never (by omega) hneed)
  · intro busy body least most count text hneed hneed'
    exact absurd hneed' (never (Nat.succ_pos _) hneed)

theorem agrees (halike : book.Alike other) (line : List Char) (fuel fuel' : Nat) :
    Agrees book other line fuel fuel' := by
  induction fuel generalizing fuel' with
  | zero => exact .of_no_fuel (.inl rfl)
  | succ fuel ih =>
    cases fuel' with
    | zero => exact .of_no_fuel (.inr rfl)
    | succ fuel' =>
      have h := ih fuel'
      exact ⟨h.run_succ halike, h.runAll_succ, h.runFirst_succ, h.runTimes_succ⟩

/-- Books that match alike give the same trees, with the fuel of either. -/
theorem match?_eq_of_alike (halike : book.Alike other) (name : String) (text : List Char) :
    book.match? name text = other.match? name text := by
  have hrun : book.run text (2 * (text.length + 2) * (book.size + 2)) [] (.reference name) text =
      other.run text (2 * (text.length + 2) * (other.size + 2)) [] (.reference name) text :=
    (agrees halike text _ _).run (need_le_fuel book text) (need_le_fuel other text)
  rw [match?, match?, hrun]

theorem Alike.refl (book : RuleBook) : book.Alike book := alikeRules_refl book.rules

/-- The fuel of a match is enough: with more of it the outcome is the same. -/
theorem match?_eq_of_le (book : RuleBook) (name : String) {text : List Char}
    (h : 2 * (text.length + 2) * (book.size + 2) ≤ fuel) :
    book.match? name text = (book.run text fuel [] (.reference name) text).toOption := by
  have hneed := need_le_fuel book text
  rw [match?, (agrees (.refl book) text _ fuel).run hneed (Nat.le_trans hneed h)]

/-! ## Making a book -/

section Making

variable {rules others : List (String × RuleBody)}

theorem any_hasMistake_eq (h : List.Forall₂ AlikeRules rules others) :
    (rules.any fun rule => rule.2.hasMistake) = others.any fun rule => rule.2.hasMistake := by
  induction h with
  | nil => rfl
  | cons hrule _ ih => rw [List.any_cons, List.any_cons, hrule.2.hasMistake_eq, ih]

theorem flatMap_names_eq (h : List.Forall₂ AlikeRules rules others) :
    (rules.flatMap fun rule => rule.2.names) = others.flatMap fun rule => rule.2.names := by
  induction h with
  | nil => rfl
  | cons hrule _ ih => rw [List.flatMap_cons, List.flatMap_cons, hrule.2.names_eq, ih]

theorem addRule_alike (name : String) {body body' : RuleBody} (hbody : body.Alike body')
    (h : List.Forall₂ AlikeRules rules others) :
    List.Forall₂ AlikeRules (addRule name body rules) (addRule name body' others) := by
  induction h with
  | nil => exact .cons ⟨rfl, hbody⟩ .nil
  | @cons rule rule' rules others hrule hmore ih =>
    simp only [addRule, hrule.1]
    split
    · exact .cons ⟨rfl, hbody⟩ hmore
    · exact .cons ⟨rfl, hrule.2⟩ ih

theorem foldl_addRule_alike (h : List.Forall₂ AlikeRules rules others)
    {found found' : List (String × RuleBody)} (hfound : List.Forall₂ AlikeRules found found') :
    List.Forall₂ AlikeRules (rules.foldl (fun found (name, body) => addRule name body found) found)
      (others.foldl (fun found (name, body) => addRule name body found) found') := by
  induction h generalizing found found' with
  | nil => exact hfound
  | @cons rule rule' _ _ hrule _ ih =>
    obtain ⟨name, body⟩ := rule
    obtain ⟨_, body'⟩ := rule'
    obtain ⟨rfl, hbody⟩ := hrule
    exact ih (addRule_alike name hbody hfound)

theorem mapM_find_alike (halike : book.Alike other) (names : List String) :
    (∃ trouble, names.mapM book.find = .error trouble ∧ names.mapM other.find = .error trouble) ∨
      ∃ found found', names.mapM book.find = .ok found ∧ names.mapM other.find = .ok found' := by
  induction names with
  | nil => exact .inr ⟨_, _, rfl, rfl⟩
  | cons name names ih =>
    rcases find_alike halike name with
      ⟨trouble, hfirst, hfirst'⟩ | ⟨name', body, body', hfirst, hfirst', -⟩
    · refine .inl ⟨trouble, ?_, ?_⟩
      · rw [List.mapM_cons, hfirst]
        rfl
      · rw [List.mapM_cons, hfirst']
        rfl
    · rcases ih with ⟨trouble, hmore, hmore'⟩ | ⟨found, found', hmore, hmore'⟩
      · refine .inl ⟨trouble, ?_, ?_⟩
        · rw [List.mapM_cons, hfirst, hmore]
          rfl
        · rw [List.mapM_cons, hfirst', hmore']
          rfl
      · refine .inr ⟨(name', body) :: found, (name', body') :: found', ?_, ?_⟩
        · rw [List.mapM_cons, hfirst, hmore]
          rfl
        · rw [List.mapM_cons, hfirst', hmore']
          rfl

/-- Two attempts at a book that fail alike, or make books that match alike. -/
def MadeAlike (made made' : Except RuleTrouble RuleBook) : Prop :=
  (∃ trouble, made = .error trouble ∧ made' = .error trouble) ∨
    ∃ book other, made = .ok book ∧ made' = .ok other ∧ book.Alike other

theorem ofRules_alike (h : List.Forall₂ AlikeRules rules others) :
    MadeAlike (ofRules rules) (ofRules others) := by
  have hbooks := foldl_addRule_alike h .nil
  simp only [ofRules, any_hasMistake_eq h, flatMap_names_eq hbooks]
  split
  · exact .inl ⟨_, rfl, rfl⟩
  · rcases mapM_find_alike hbooks _ with
      ⟨trouble, hnames, hnames'⟩ | ⟨found, found', hnames, hnames'⟩
    · refine .inl ⟨trouble, ?_, ?_⟩
      · rw [hnames]
        rfl
      · rw [hnames']
        rfl
    · refine .inr ⟨_, _, ?_, ?_, hbooks⟩
      · rw [hnames]
        rfl
      · rw [hnames']
        rfl

end Making

end RuleBook

end Vetting
