import Vetting.Text.Pattern

/-!
# Vetting.Proofs.Text.Pattern

A match of a pattern does not go back: what it leaves is no longer than what it was tried on, though
it may look back on the way.

A pattern runs with what is to come as an argument, so the statement is one on runs: what a run
finds, its sequel finds from a place that is not further back (`Narrows`). It is proved for rounds
by induction on their fuel, and for patterns by induction on them.
-/

namespace Vetting

namespace Cursor

variable {place next : Cursor} {c : Char}

theorem ahead_of_next? (h : place.next? = some (c, next)) : place.ahead = c :: next.ahead := by
  rw [next?] at h
  split at h
  · cases h
  · next hahead =>
    obtain ⟨rfl, rfl⟩ := Prod.mk.inj (Option.some.inj h)
    exact hahead

theorem length_ahead_of_next? (h : place.next? = some (c, next)) :
    next.ahead.length < place.ahead.length := by
  rw [ahead_of_next? h]
  exact Nat.lt_succ_self _

theorem length_ahead_of_after? {text : List Char} (h : place.after? text = some next) :
    next.ahead.length ≤ place.ahead.length := by
  induction text generalizing place with
  | nil =>
    obtain rfl := Option.some.inj h
    exact Nat.le_refl _
  | cons c text ih =>
    rw [after?] at h
    split at h
    · next d behind hnext =>
      split at h
      · exact Nat.le_trans (ih h) (Nat.le_of_lt (length_ahead_of_next? hnext))
      · cases h
    · cases h

theorem length_ahead_skip (count : Nat) (place : Cursor) :
    (place.skip count).ahead.length ≤ place.ahead.length := by
  induction count generalizing place with
  | zero => exact Nat.le_refl _
  | succ count ih =>
    rw [skip]
    split
    · next hnext => exact Nat.le_trans (ih _) (Nat.le_of_lt (length_ahead_of_next? hnext))
    · exact Nat.le_refl _

theorem length_ahead_of_afterCluster? (h : place.afterCluster? = some next) :
    next.ahead.length ≤ place.ahead.length := by
  rw [afterCluster?] at h
  split at h
  · cases h
  · cases h
    exact length_ahead_skip _ _
  · dsimp only at h
    split at h <;> cases h <;> exact length_ahead_skip _ _

end Cursor

namespace Pattern

/-- What a run finds, its sequel finds, from a place that is not further back. -/
def Narrows (run : Sequel → Sequel) : Prop :=
  ∀ sequel place found, run sequel place = some found →
    ∃ next, sequel next = some found ∧ next.ahead.length ≤ place.ahead.length

variable {round : Sequel → Sequel}

/-- With the sequel that stops at once, a run gives the place that it leaves. -/
theorem Narrows.length_le (h : Narrows round) {place found : Cursor}
    (hrun : round some place = some found) : found.ahead.length ≤ place.ahead.length := by
  obtain ⟨next, hnext, hle⟩ := h some place found hrun
  obtain rfl := Option.some.inj hnext
  exact hle

theorem of_orElse {first : Option Cursor} {second : Unit → Option Cursor} {found : Cursor}
    (h : first.orElse second = some found) : first = some found ∨ second () = some found := by
  cases first with
  | none => exact .inr h
  | some place => exact .inl h

theorem narrows_rounds (h : Narrows round) (greed : Greed) (fuel least : Nat)
    (most : Option Nat) : Narrows (rounds round greed fuel least most) := by
  intro sequel place found hrun
  induction fuel generalizing least most place with
  | zero => exact ⟨place, hrun, Nat.le_refl _⟩
  | succ fuel ih =>
    have here : sequel place = some found →
        ∃ next, sequel next = some found ∧ next.ahead.length ≤ place.ahead.length :=
      fun hsequel => ⟨place, hsequel, Nat.le_refl _⟩
    have another : (if most = some 0 then none else
        round (fun next =>
          if next.ahead.length < place.ahead.length then
            rounds round greed fuel (least - 1) (most.map (· - 1)) sequel next
          else sequel next) place) = some found →
        ∃ next, sequel next = some found ∧ next.ahead.length ≤ place.ahead.length := by
      intro hround
      split at hround
      · cases hround
      · obtain ⟨next, hnext, hle⟩ := h _ _ _ hround
        split at hnext
        · obtain ⟨last, hlast, hle'⟩ := ih _ _ _ hnext
          exact ⟨last, hlast, Nat.le_trans hle' hle⟩
        · exact ⟨next, hnext, hle⟩
    simp only [rounds] at hrun
    split at hrun
    · exact another hrun
    · split at hrun
      · rcases of_orElse hrun with hsequel | hround
        · exact here hsequel
        · exact another hround
      · rcases of_orElse hrun with hround | hsequel
        · exact another hround
        · exact here hsequel

theorem narrows_run (pattern : Pattern) : Narrows pattern.run := by
  induction pattern with
  | empty =>
    intro sequel place found h
    exact ⟨place, h, Nat.le_refl _⟩
  | one set =>
    intro sequel place found h
    simp only [run] at h
    split at h
    · next hnext =>
      split at h
      · exact ⟨_, h, Nat.le_of_lt (Cursor.length_ahead_of_next? hnext)⟩
      · cases h
    · cases h
  | cluster =>
    intro sequel place found h
    obtain ⟨next, hnext, hsequel⟩ := Option.bind_eq_some_iff.1 h
    exact ⟨next, hsequel, Cursor.length_ahead_of_afterCluster? hnext⟩
  | stands anchor =>
    intro sequel place found h
    simp only [run] at h
    split at h
    · exact ⟨place, h, Nat.le_refl _⟩
    · cases h
  | both first second ihFirst ihSecond =>
    intro sequel place found h
    obtain ⟨next, hnext, hle⟩ := ihFirst _ _ _ h
    obtain ⟨last, hlast, hle'⟩ := ihSecond _ _ _ hnext
    exact ⟨last, hlast, Nat.le_trans hle' hle⟩
  | either first second ihFirst ihSecond =>
    intro sequel place found h
    rcases of_orElse h with h | h
    · exact ihFirst _ _ _ h
    · exact ihSecond _ _ _ h
  | times body least most greed ih =>
    intro sequel place found h
    simp only [run] at h
    split at h
    · obtain ⟨next, hnext, hsequel⟩ := Option.bind_eq_some_iff.1 h
      exact ⟨next, hsequel, (narrows_rounds ih _ _ _ _).length_le hnext⟩
    · exact narrows_rounds ih _ _ _ _ _ _ _ h
  | group number body ih =>
    intro sequel place found h
    obtain ⟨next, hnext, hle⟩ := ih _ _ _ h
    exact ⟨_, hnext, hle⟩
  | again number =>
    intro sequel place found h
    simp only [run] at h
    split at h
    · obtain ⟨next, hnext, hsequel⟩ := Option.bind_eq_some_iff.1 h
      exact ⟨next, hsequel, Cursor.length_ahead_of_after? hnext⟩
    · cases h
  | whole body ih =>
    intro sequel place found h
    obtain ⟨next, hnext, hsequel⟩ := Option.bind_eq_some_iff.1 h
    exact ⟨next, hsequel, ih.length_le hnext⟩
  | ahead isNegated body ih =>
    intro sequel place found h
    simp only [run] at h
    split at h <;> split at h
    · cases h
    · exact ⟨_, h, Nat.le_refl _⟩
    · exact ⟨place, h, Nat.le_refl _⟩
    · cases h
  | behind isNegated body ih =>
    intro sequel place found h
    simp only [run] at h
    -- The places that are tried lie further back, but only what is kept there is taken from them.
    split at h <;> split at h
    · cases h
    · exact ⟨_, h, Nat.le_refl _⟩
    · exact ⟨place, h, Nat.le_refl _⟩
    · cases h

theorem length_le_of_rest? {pattern : Pattern} {before text rest : List Char}
    (h : pattern.rest? before text = some rest) : rest.length ≤ text.length := by
  obtain ⟨found, hrun, rfl⟩ := Option.map_eq_some_iff.1 h
  exact (narrows_run pattern).length_le hrun

/-! ## Characters of a set -/

section Sets

variable (set : CharSet) (sequel : Sequel) (behind text : List Char) (c : Char) (start : Nat)
  (kept : List (Nat × List Char))

theorem run_both (first second : Pattern) :
    (both first second).run sequel = first.run (second.run sequel) := rfl

theorem run_one_cons :
    (one set).run sequel ⟨behind, c :: text, start, kept⟩ =
      if set.admits c then sequel ⟨c :: behind, text, start, kept⟩ else none := rfl

/-- A repetition takes the characters of the set that come, and nothing makes it give one back. -/
theorem rounds_one {fuel : Nat} (h : text.length < fuel) :
    rounds (one set).run .more fuel 0 none some ⟨behind, text, start, kept⟩ =
      some ⟨(text.takeWhile set.admits).reverse ++ behind, text.dropWhile set.admits, start,
        kept⟩ := by
  induction fuel generalizing behind text with
  | zero => cases h
  | succ fuel ih =>
    cases text with
    | nil => rfl
    | cons c text =>
      have hmore := ih (c :: behind) text (Nat.lt_of_succ_lt_succ h)
      by_cases hadmits : set.admits c = true
      · simp [rounds, run_one_cons, hadmits, hmore]
      · simp [rounds, run_one_cons, hadmits]

theorem run_times_more (body : Pattern) (least : Nat) (most : Option Nat) (place : Cursor) :
    (times body least most .more).run sequel place =
      rounds body.run .more (place.ahead.length + 1) least most sequel place := rfl

theorem run_many :
    (times (one set) 0 none .more).run some ⟨behind, text, start, kept⟩ =
      some ⟨(text.takeWhile set.admits).reverse ++ behind, text.dropWhile set.admits, start,
        kept⟩ := by
  rw [run_times_more]
  exact rounds_one set behind text start kept (Nat.lt_succ_self _)

theorem run_atLeastOne :
    (times (one set) 1 none .more).run some ⟨behind, c :: text, start, kept⟩ =
      if set.admits c then (times (one set) 0 none .more).run some ⟨c :: behind, text, start, kept⟩
      else none := by
  simp [run_times_more, rounds, run_one_cons]

/-- A character that may be missing is taken where what follows matches behind it. -/
theorem run_maybe :
    (times (one set) 0 (some 1) .more).run sequel ⟨behind, c :: text, start, kept⟩ =
      if set.admits c then
        (sequel ⟨c :: behind, text, start, kept⟩).or (sequel ⟨behind, c :: text, start, kept⟩)
      else sequel ⟨behind, c :: text, start, kept⟩ := by
  by_cases hadmits : set.admits c = true
  · simp [run_times_more, rounds, run_one_cons, hadmits]
  · simp [run_times_more, rounds, run_one_cons, hadmits]

end Sets

end Pattern

end Vetting
