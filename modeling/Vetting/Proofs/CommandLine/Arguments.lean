import Vetting.CommandLine.Arguments

/-!
# Vetting.Proofs.CommandLine.Arguments

The options of a command line do not depend on its command. Words that ask for all validators with
some options ask for one with the same options when the command and the name stand in front.

* `readCommand_restated`: words are read in the same way, whatever the command is and whatever
  values were read before them.
* `read_run`: the command line of one validator, from that of all.
-/

namespace Vetting

namespace Arguments

theorem withValue_command (a : Arguments) (command : Command) (flag : Flag) (value : String) :
    withValue { a with command } flag value = { a.withValue flag value with command } := by
  cases flag <;> rfl

theorem withFlag_command (a : Arguments) (command : Command) (flag : Flag) :
    withFlag { a with command } flag = { a.withFlag flag with command } := by
  cases flag <;> rfl

/-- A reading with another command, and with more values before its own. -/
def Reading.restated (command : Command) (front : List String) (reading : Reading) : Reading :=
  ⟨{ reading.arguments with command }, front ++ reading.values, reading.isOver⟩

/-- A flag without a value does not look at the word behind it. -/
theorem readCommand_flag {flag : Flag} (hvalue : ¬ flag.hasValue = true) (reading : Reading)
    (isShort byEquals : Bool) (rest : List Word) :
    readCommand reading (.flag flag isShort none byEquals :: rest) =
      if flag = .help then .error .help
      else readCommand { reading with arguments := reading.arguments.withFlag flag } rest := by
  by_cases hrest : ∃ text more, rest = .value text :: more
  · obtain ⟨text, more, rfl⟩ := hrest
    rw [readCommand.eq_9, if_neg hvalue]
  · rw [readCommand.eq_10 _ _ _ _ _ fun text more h => hrest ⟨text, more, h⟩, if_neg hvalue]

theorem readCommand_restated (command : Command) (front : List String) (reading : Reading)
    (words : List Word) :
    readCommand (reading.restated command front) words =
      (readCommand reading words).map (Reading.restated command front) := by
  -- one case for each equation of the reader: none of them looks at the command, and values are
  -- only ever put behind those that are there
  fun_induction readCommand reading words with
  | case1 => rfl
  | case2 reading text rest ih =>
    rw [← ih, readCommand]
    simp only [Reading.restated, List.append_assoc]
  | case3 reading text rest hmark ih =>
    rw [← ih, readCommand.eq_3 _ _ _ hmark]
    simp only [Reading.restated, List.append_assoc]
  | case4 => rfl
  | case5 reading rest hlast ih => rw [← ih, readCommand.eq_5 _ _ hlast]
  | case6 reading rest ih =>
    rw [← ih, readCommand]
    rfl
  | case7 => rfl
  | case8 reading flag isShort byEquals hvalue text rest ih =>
    rw [← ih, readCommand, if_pos hvalue]
    simp only [Reading.restated, withValue_command]
  | case9 reading flag isShort byEquals hvalue text rest ih =>
    rw [← ih, readCommand, if_pos hvalue]
    simp only [Reading.restated, withValue_command]
  | case10 reading flag isShort byEquals rest hvalue hnone =>
    rw [readCommand.eq_10 _ _ _ _ _ hnone, if_pos hvalue]
    rfl
  | case11 reading isShort byEquals rest hvalue =>
    rw [readCommand_flag hvalue, if_pos rfl]
    rfl
  | case12 reading flag isShort byEquals rest hvalue hhelp ih =>
    rw [← ih, readCommand_flag hvalue, if_neg hhelp]
    simp only [Reading.restated, withFlag_command]
  | case13 reading flag isShort byEquals rest hvalue text hshort request hjoined =>
    rw [readCommand, if_neg hvalue, if_pos hshort, hjoined]
    rfl
  | case14 reading isShort byEquals rest text hshort more hjoined hvalue =>
    rw [readCommand, if_neg hvalue, if_pos hshort, hjoined]
    rfl
  | case15 reading flag isShort byEquals rest hvalue text hshort more hjoined hhelp _ _ ih =>
    rw [← ih, readCommand, if_neg hvalue, if_pos hshort, hjoined]
    simp only [if_neg hhelp, Reading.restated, withFlag_command]
    rfl
  | case16 reading flag isShort byEquals rest hvalue text hshort =>
    rw [readCommand, if_neg hvalue, if_neg hshort]
    rfl

theorem mark_not_mem_candidates (spellings : Spellings) (text : List Char) :
    Word.mark ∉ candidates spellings text := by
  intro hmem
  unfold candidates at hmem
  split at hmem
  · obtain ⟨⟨spelling, flag⟩, -, hfound⟩ := List.mem_filterMap.1 hmem
    dsimp only at hfound
    split at hfound <;> simp at hfound
  · obtain ⟨⟨spelling, flag⟩, -, hfound⟩ := List.mem_filterMap.1 hmem
    dsimp only at hfound
    split at hfound
    · simp at hfound
    · split at hfound <;> simp at hfound
  · cases hmem

/-- No word but two hyphens alone is the mark. -/
theorem readWord_ne_mark (spellings : Spellings) (word : String) :
    readWord spellings word ≠ .mark := by
  unfold readWord
  split
  · unfold readDashed
    dsimp only
    split
    · exact nofun
    · split
      · exact nofun
      · split
        · next found hfound =>
          rintro rfl
          exact mark_not_mem_candidates spellings word.toList
            (hfound ▸ List.mem_singleton_self _)
        · exact nofun
        · split <;> exact nofun
  · exact nofun

/-- A name that does not start with a hyphen. -/
def IsPlain (name : String) : Prop := name.toList.head? ≠ some '-'

instance (name : String) : Decidable (IsPlain name) := inferInstanceAs (Decidable (¬ _ = _))

variable {name : String} {options : List String} {a : Arguments}

theorem readWord_of_isPlain (spellings : Spellings) (h : IsPlain name) :
    readWord spellings name = .value name := by
  unfold readWord
  split
  · next c rest hname => exact absurd (congrArg List.head? hname) h
  · rfl

theorem readWords_cons (spellings : Spellings) (h : IsPlain name) (rest : List String) :
    readWords spellings (name :: rest) = .value name :: readWords spellings rest := by
  have hmark : name ≠ "--" := by
    rintro rfl
    exact h rfl
  rw [readWords, beq_eq_false_iff_ne.2 hmark, readWord_of_isPlain spellings h]
  rfl

theorem head?_readWords (spellings : Spellings) {words : List String}
    (h : words.contains "--" = false) : (readWords spellings words).head? ≠ some .mark := by
  cases words with
  | nil => exact nofun
  | cons word rest =>
    have hmark : (word == "--") = false := by
      have hne : word ≠ "--" := by
        rintro rfl
        simp at h
      exact beq_eq_false_iff_ne.2 hne
    rw [readWords, hmark]
    simpa using readWord_ne_mark spellings word

theorem readCommand_value (reading : Reading) (text : String) {words : List Word}
    (h : words.head? ≠ some .mark) :
    readCommand reading (.value text :: words) =
      readCommand { reading with values := reading.values ++ [text] } words := by
  refine readCommand.eq_3 reading text words fun rest hrest => h ?_
  rw [hrest]
  rfl

theorem joinedFlags_ne_run (text : List Char) : joinedFlags text ≠ .error (.run a) := by
  fun_induction joinedFlags text with
  | case3 rest hequals ih =>
    cases hrest : joinedFlags rest with
    | error request =>
      rw [hrest] at ih
      simpa [Except.map] using ih
    | ok more => simp [Except.map]
  | _ => simp

theorem readCommand_ne_run (reading : Reading) (words : List Word) :
    readCommand reading words ≠ .error (.run a) := by
  fun_induction readCommand reading words with
  | case13 reading flag isShort byEquals rest hvalue text hshort request hjoined =>
    rintro h
    cases h
    exact joinedFlags_ne_run _ hjoined
  | _ => simp_all

/-- What the words behind the command are when they ask for all validators: options alone. -/
theorem readCommand_of_readRequest (h : readRequest "run-all" options = .run a) :
    options.contains "--" = false ∧
      (readWords commandFlags options).contains .ambiguous = false ∧
      readCommand ⟨{ command := .runAll }, [], false⟩ (readWords commandFlags options) =
        .ok ⟨a, [], false⟩ := by
  have hstart : ("run-all" == "list") = false ∧ ("run-all" == "run") = false := by decide
  simp only [readRequest, hstart.1, hstart.2, beq_self_eq_true, Bool.false_eq_true, if_false,
    if_true] at h
  split at h
  · cases h
  · next hambiguous =>
    split at h
    · next request hread =>
      subst h
      exact absurd hread (readCommand_ne_run _ _)
    · next reading hread =>
      obtain ⟨arguments, values, isOver⟩ := reading
      cases isOver with
      | true => cases h
      | false =>
        cases values with
        | cons text rest => cases h
        | nil =>
          simp only [Bool.false_eq_true, if_false] at h
          split at h
          · cases h
          · next hmark =>
            cases h
            exact ⟨by simpa using hmark, by simpa using hambiguous, hread⟩

/-- The words of one validator with the options of all: the same reading, with the name for its
value. -/
theorem readRequest_run (hname : IsPlain name) (h : readRequest "run-all" options = .run a) :
    readRequest "run" (name :: options) = .run { a with command := .run name } := by
  obtain ⟨hmark, hambiguous, hread⟩ := readCommand_of_readRequest h
  have hstart : ("run" == "list") = false := by decide
  have hwords := readWords_cons commandFlags hname options
  have hclear : (Word.value name :: readWords commandFlags options).contains .ambiguous = false := by
    simpa using hambiguous
  have hrun : readCommand ⟨{ command := .run "" }, [], false⟩
      (.value name :: readWords commandFlags options) =
        .ok ⟨{ a with command := .run "" }, [name], false⟩ := by
    rw [readCommand_value _ _ (head?_readWords commandFlags hmark)]
    have hrestated := readCommand_restated (.run "") [name] ⟨{ command := .runAll }, [], false⟩
      (readWords commandFlags options)
    rw [hread] at hrestated
    exact hrestated
  simp only [readRequest, hstart, hwords, hclear, hrun, beq_self_eq_true, Bool.false_eq_true,
    if_false, if_true]

theorem command_of_readRequest (h : readRequest "run-all" options = .run a) :
    a.command = .runAll := by
  obtain ⟨-, -, hread⟩ := readCommand_of_readRequest h
  have hrestated := readCommand_restated .runAll [] ⟨{ command := .runAll }, [], false⟩
    (readWords commandFlags options)
  rw [hread] at hrestated
  have hsame := Except.ok.inj (hread.symm.trans hrestated)
  exact congrArg (fun reading => reading.arguments.command) hsame

/-- A word that is taken for the name of a validator when it stands in front of some options. -/
def IsName (options : List String) (a : Arguments) (name : String) : Prop :=
  read ("run" :: name :: options) = .run { a with command := .run name }

/-- The command line of one validator, from that of all: the options stay what they are. -/
theorem read_run (h : read ("run-all" :: options) = .run a) :
    a.command = .runAll ∧ ∀ name, IsPlain name → IsName options a name := by
  have hplain : IsPlain "run-all" ∧ IsPlain "run" := by decide
  have hstart : ("run-all" == "--") = false ∧ ("run" == "--") = false := by decide
  rw [read, readWords_cons _ hplain.1, readOuter, hstart.1] at h
  simp only [readWord_of_isPlain _ hplain.1, Bool.false_eq_true, if_false] at h
  split at h
  · cases h
  · next hambiguous =>
    cases hrequest : readRequest "run-all" options with
    | run arguments =>
      rw [hrequest] at h
      cases h
      refine ⟨command_of_readRequest hrequest, fun name hname => ?_⟩
      have hclear : (Word.value "run" :: .value name :: readWords outerFlags options).contains
          .ambiguous = false := by
        simpa using hambiguous
      rw [IsName, read, readWords_cons _ hplain.2, readWords_cons _ hname, hclear, readOuter,
        hstart.2]
      simp only [readWord_of_isPlain _ hplain.2, readRequest_run hname hrequest,
        Bool.false_eq_true, if_false]
    | _ => simp [hrequest] at h

end Arguments

end Vetting
