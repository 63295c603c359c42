import Vetting.Proofs.Sweep.Region

/-!
# Vetting.Proofs.Sweep.Token

A source text as a list of tokens, said without the sweep. The token at each place is the first
kind of token that applies there, in the order of `TokenKind.rank`.

* `Tokenized`: a text is exactly these tokens, from left to right.
* `names_eq_names_of_tokens`: every text is tokenized in exactly one way, and the sweep finds
  exactly the names of its tokens.
-/

namespace Vetting

inductive TokenKind where
  | lineComment
  | blockComment
  | rawString
  | string
  | character
  | escapedIdentifier
  | identifier
  | other
  deriving DecidableEq, Repr

/-- The order in which the kinds of tokens are tried. -/
def TokenKind.rank : TokenKind → Nat
  | lineComment => 0
  | blockComment => 1
  | rawString => 2
  | string => 3
  | character => 4
  | escapedIdentifier => 5
  | identifier => 6
  | other => 7

structure Token where
  kind : TokenKind
  lexeme : List Char
  deriving DecidableEq, Repr

/-- How a token opens that holds no code, and the region that it opens. -/
inductive Opens (dialect : Dialect) : TokenKind → Region → List Char → Prop where
  | lineComment : Opens dialect .lineComment .lineComment ['/', '/']
  | blockComment : Opens dialect .blockComment .blockComment ['/', '*']
  | rawString : dialect.rawStringMark.toList ≠ [] →
      Opens dialect .rawString .rawString (dialect.rawStringMark.toList ++ ['"'])
  | string : Opens dialect .string .string ['"']
  | character : Opens dialect .character .character ['\'']

/-- A letter or a low line, and then letters, numbers and low lines, as many as there are before
`rest`. -/
structure IsIdentifier (name rest : List Char) : Prop where
  start : ∃ c more, name = c :: more ∧ isIdentifierStart c = true
  part : ∀ c ∈ name.tail, isIdentifierPart c = true
  maximal : ∀ c ∈ rest.head?, isIdentifierPart c = false

/-- The lexemes of each kind of token, with the text that follows them. -/
inductive Lexeme (dialect : Dialect) : TokenKind → (lexeme rest : List Char) → Prop where
  | region {kind : TokenKind} {region : Region} {opening body closing rest : List Char} :
      Opens dialect kind region opening → region.Holds body → region.Ends closing rest →
      Lexeme dialect kind (opening ++ (body ++ closing)) rest
  | escapedIdentifier {name rest : List Char} :
      dialect.escapeMark.toList ≠ [] → IsIdentifier name rest →
      Lexeme dialect .escapedIdentifier (dialect.escapeMark.toList ++ name) rest
  | identifier {name rest : List Char} :
      IsIdentifier name rest → Lexeme dialect .identifier name rest
  | other {c : Char} {rest : List Char} : Lexeme dialect .other [c] rest

/-- Whether a text starts with a token of a kind. -/
def TokenKind.Applies (dialect : Dialect) (kind : TokenKind) (text : List Char) : Prop :=
  ∃ lexeme rest, text = lexeme ++ rest ∧ Lexeme dialect kind lexeme rest

/-- The token at the start of a text is of the first kind that applies. -/
structure IsFirstToken (dialect : Dialect) (token : Token) (rest : List Char) : Prop where
  lexeme : Lexeme dialect token.kind token.lexeme rest
  first : ∀ kind : TokenKind, kind.rank < token.kind.rank →
    ¬ kind.Applies dialect (token.lexeme ++ rest)

/-- A text is these tokens, from left to right. -/
inductive Tokenized (dialect : Dialect) : List Char → List Token → Prop where
  | nil : Tokenized dialect [] []
  | cons {token : Token} {rest : List Char} {tokens : List Token} :
      IsFirstToken dialect token rest → Tokenized dialect rest tokens →
      Tokenized dialect (token.lexeme ++ rest) (token :: tokens)

/-- The identifier that a token is, without the escape mark. -/
def Token.identifier? (dialect : Dialect) (token : Token) : Option (List Char) :=
  match token.kind with
  | .escapedIdentifier => Text.after? dialect.escapeMark.toList token.lexeme
  | .identifier => some token.lexeme
  | _ => none

/-! ## One token of each kind -/

section

variable {dialect : Dialect}

theorem TokenKind.rank_injective {a b : TokenKind} (h : a.rank = b.rank) : a = b := by
  cases a <;> cases b <;> first | rfl | cases h

theorem Opens.rank_lt {kind : TokenKind} {region : Region} {opening : List Char}
    (h : Opens dialect kind region opening) : kind.rank < 5 := by
  cases h <;> decide

theorem Opens.region_ne_code {kind : TokenKind} {region : Region} {opening : List Char}
    (h : Opens dialect kind region opening) : region ≠ .code := by
  cases h <;> decide

theorem Opens.unique {kind : TokenKind} {region region' : Region} {opening opening' : List Char}
    (h : Opens dialect kind region opening) (h' : Opens dialect kind region' opening') :
    region = region' ∧ opening = opening' := by
  cases h <;> cases h' <;> exact ⟨rfl, rfl⟩

theorem IsIdentifier.split {name rest : List Char} (h : IsIdentifier name rest) :
    ∃ c more, name = c :: more ∧ isIdentifierStart c = true ∧
      (more ++ rest).takeWhile isIdentifierPart = more ∧
      (more ++ rest).dropWhile isIdentifierPart = rest := by
  obtain ⟨c, more, rfl, hc⟩ := h.start
  have hpart : ∀ d ∈ more, isIdentifierPart d = true := h.part
  refine ⟨c, more, rfl, hc, ?_, ?_⟩
  · rw [List.takeWhile_append_of_pos hpart]
    cases rest with
    | nil => simp
    | cons d rest => simp [h.maximal d rfl]
  · rw [List.dropWhile_append_of_pos hpart]
    cases rest with
    | nil => rfl
    | cons d rest => simp [h.maximal d rfl]

theorem IsIdentifier.unique {name rest name' rest' : List Char} (h : IsIdentifier name rest)
    (h' : IsIdentifier name' rest') (heq : name ++ rest = name' ++ rest') : name = name' := by
  obtain ⟨c, more, rfl, -, hmore, -⟩ := h.split
  obtain ⟨c', more', rfl, -, hmore', -⟩ := h'.split
  rw [List.cons_append, List.cons_append] at heq
  obtain ⟨rfl, htail⟩ := List.cons.inj heq
  rw [← hmore, ← hmore', htail]

theorem isIdentifier_takeWhile {c : Char} (hc : isIdentifierStart c = true) (text : List Char) :
    IsIdentifier (c :: text.takeWhile isIdentifierPart) (text.dropWhile isIdentifierPart) where
  start := ⟨c, _, rfl, hc⟩
  part := fun _ hd => List.all_eq_true.1 List.all_takeWhile _ hd
  maximal := fun d hd => by
    have := List.head?_dropWhile_not isIdentifierPart text
    rw [Option.mem_def.1 hd] at this
    simpa using this

theorem Lexeme.ne_nil {kind : TokenKind} {lexeme rest : List Char}
    (h : Lexeme dialect kind lexeme rest) : lexeme ≠ [] := by
  cases h with
  | region hopens _ _ => cases hopens <;> simp
  | escapedIdentifier hmark _ => simp [hmark]
  | identifier hname =>
    obtain ⟨c, more, rfl, -⟩ := hname.start
    exact List.cons_ne_nil c more
  | other => exact List.cons_ne_nil _ _

/-- A kind of token goes as far as it does in one way only. -/
theorem Lexeme.unique {kind : TokenKind} {lexeme rest lexeme' rest' : List Char}
    (h : Lexeme dialect kind lexeme rest) (h' : Lexeme dialect kind lexeme' rest')
    (heq : lexeme ++ rest = lexeme' ++ rest') : lexeme = lexeme' := by
  cases h with
  | region hopens hbody hends =>
    cases h' with
    | region hopens' hbody' hends' =>
      obtain ⟨rfl, rfl⟩ := hopens.unique hopens'
      obtain ⟨rfl, rfl⟩ := Region.ends_unique hbody hends hbody' hends' (by simpa using heq)
      rfl
    | escapedIdentifier => cases hopens
    | identifier => cases hopens
    | other => cases hopens
  | escapedIdentifier hmark hname =>
    cases h' with
    | region hopens' => cases hopens'
    | escapedIdentifier _ hname' =>
      rw [List.append_assoc, List.append_assoc] at heq
      rw [hname.unique hname' (List.append_cancel_left heq)]
  | identifier hname =>
    cases h' with
    | region hopens' => cases hopens'
    | identifier hname' => exact hname.unique hname' heq
  | other =>
    cases h' with
    | region hopens' => cases hopens'
    | other => rw [(List.cons.inj heq).1]

theorem applies_of_opens {kind : TokenKind} {region : Region} {opening : List Char}
    (h : Opens dialect kind region opening) (text : List Char) :
    kind.Applies dialect (opening ++ text) := by
  obtain ⟨body, closing, rest, rfl, hbody, hends⟩ := Region.exists_ends h.region_ne_code text
  exact ⟨opening ++ (body ++ closing), rest, by simp, .region h hbody hends⟩

theorem applies_identifier {c : Char} (hc : isIdentifierStart c = true) (text : List Char) :
    TokenKind.identifier.Applies dialect (c :: text) :=
  ⟨_, _, by simp [List.takeWhile_append_dropWhile], .identifier (isIdentifier_takeWhile hc text)⟩

theorem applies_escapedIdentifier {c : Char} (hmark : dialect.escapeMark.toList ≠ [])
    (hc : isIdentifierStart c = true) (text : List Char) :
    TokenKind.escapedIdentifier.Applies dialect (dialect.escapeMark.toList ++ c :: text) :=
  ⟨_, _, by simp [List.takeWhile_append_dropWhile],
    .escapedIdentifier hmark (isIdentifier_takeWhile hc text)⟩

end

/-! ## The sweep over one token -/

namespace Sweep

variable {dialect : Dialect}

theorem isMark_iff {mark : String} {c : Char} : isMark mark c = true ↔ mark.toList = [c] := by
  simp [isMark]

theorem exists_singleton_of_mark {mark : String} (h : mark.length ≤ 1) (hne : mark.toList ≠ []) :
    ∃ c, mark.toList = [c] := by
  rw [← String.length_toList] at h
  have hpos : 0 < mark.toList.length := List.length_pos_iff.2 hne
  exact List.length_eq_one_iff.1 (by omega)

/-- A step in code where no token without code opens. -/
theorem codeStep_of_not_opens {c : Char} {text : List Char} :
    (∀ kind region opening rest, Opens dialect kind region opening → c :: text ≠ opening ++ rest) →
    codeStep dialect c text =
      match isMark dialect.escapeMark c, text with
      | true, next :: more =>
        if isIdentifierStart next then identifierFrom next more
        else if isIdentifierStart c then identifierFrom c text
        else ⟨.code, none, text⟩
      | _, _ => if isIdentifierStart c then identifierFrom c text else ⟨.code, none, text⟩ := by
  intro h
  have hline : ¬ (c = '/' ∧ text.head? = some '/') := by
    rintro ⟨rfl, hhead⟩
    obtain ⟨rest, rfl⟩ := List.head?_eq_some_iff.1 hhead
    exact h _ _ _ rest .lineComment rfl
  have hblock : ¬ (c = '/' ∧ text.head? = some '*') := by
    rintro ⟨rfl, hhead⟩
    obtain ⟨rest, rfl⟩ := List.head?_eq_some_iff.1 hhead
    exact h _ _ _ rest .blockComment rfl
  have hraw : ¬ (isMark dialect.rawStringMark c = true ∧ text.head? = some '"') := by
    rintro ⟨hmark, hhead⟩
    obtain ⟨rest, rfl⟩ := List.head?_eq_some_iff.1 hhead
    rw [isMark_iff] at hmark
    exact h _ _ _ rest (.rawString (by simp [hmark])) (by simp [hmark])
  have hquote : c ≠ '"' := by
    rintro rfl
    exact h _ _ _ text .string rfl
  have hapostrophe : c ≠ '\'' := by
    rintro rfl
    exact h _ _ _ text .character rfl
  simp only [codeStep]
  rw [if_neg hline, if_neg hblock, if_neg hraw, if_neg hquote]
  exact if_neg hapostrophe

/-- A step in code where neither such a token opens nor an identifier is escaped. -/
theorem codeStep_of_not_escape {c : Char} {text : List Char}
    (h : ∀ kind region opening rest, Opens dialect kind region opening →
      c :: text ≠ opening ++ rest)
    (hescape : isMark dialect.escapeMark c = true → ∀ next more, text = next :: more →
      isIdentifierStart next = false) :
    codeStep dialect c text =
      if isIdentifierStart c then identifierFrom c text else ⟨.code, none, text⟩ := by
  rw [codeStep_of_not_opens h]
  split
  · rename_i next more hmark
    have hnext := hescape hmark next more rfl
    rw [if_neg (by simp [hnext])]
  · rfl

/-- The sweep enters the region that the first token opens. -/
theorem run_of_opens (hraw : dialect.rawStringMark.length ≤ 1) {kind : TokenKind} {region : Region}
    {opening text : List Char} (h : Opens dialect kind region opening)
    (hfirst : ∀ earlier : TokenKind, earlier.rank < kind.rank →
      ¬ earlier.Applies dialect (opening ++ text)) :
    run dialect .code (opening ++ text) = run dialect region text := by
  -- A quote after a raw string mark opens a raw string before it can open anything else.
  have notRaw : ∀ c rest, opening ++ text = c :: rest → 2 < kind.rank →
      ¬ (isMark dialect.rawStringMark c = true ∧ rest.head? = some '"') := by
    rintro c rest heq hrank ⟨hmark, hhead⟩
    obtain ⟨rest, rfl⟩ := List.head?_eq_some_iff.1 hhead
    rw [isMark_iff] at hmark
    have happlies : TokenKind.rawString.Applies dialect
        (dialect.rawStringMark.toList ++ ['"'] ++ rest) :=
      applies_of_opens (.rawString (by simp [hmark])) rest
    refine hfirst .rawString hrank ?_
    rw [heq]
    simpa [hmark] using happlies
  cases h with
  | lineComment =>
    have hs : step dialect .code '/' ('/' :: text) = ⟨.lineComment, none, text⟩ := by
      simp [step, codeStep]
    exact run_of_step hs
  | blockComment =>
    have hs : step dialect .code '/' ('*' :: text) = ⟨.blockComment, none, text⟩ := by
      simp [step, codeStep]
    exact run_of_step hs
  | rawString hne =>
    obtain ⟨mark, hmark⟩ := exists_singleton_of_mark hraw hne
    have hs : step dialect .code mark ('"' :: text) = ⟨.rawString, none, text⟩ := by
      simp [step, codeStep, isMark_iff, hmark]
    rw [hmark]
    exact run_of_step hs
  | string =>
    have hnot := notRaw '"' text rfl (by decide)
    have hs : step dialect .code '"' text = ⟨.string, none, text⟩ := by
      simp [step, codeStep, hnot]
    exact run_of_step hs
  | character =>
    have hnot := notRaw '\'' text rfl (by decide)
    have hs : step dialect .code '\'' text = ⟨.character, none, text⟩ := by
      simp [step, codeStep, hnot]
    exact run_of_step hs

/-- The sweep takes an identifier as a whole. -/
theorem run_of_identifierFrom {c d : Char} {text more rest : List Char}
    (h : codeStep dialect c text = identifierFrom d (more ++ rest))
    (hmore : (more ++ rest).takeWhile isIdentifierPart = more)
    (hrest : (more ++ rest).dropWhile isIdentifierPart = rest) :
    (run dialect .code (c :: text)).2 = (d :: more) :: (run dialect .code rest).2 := by
  have hs : step dialect .code c text = ⟨.code, some (d :: more), rest⟩ := by
    simp only [step, h, identifierFrom, hmore, hrest]
  rw [run_cons, hs]
  rfl

/-- The sweep over the first token of a text finds the identifier that the token is, and goes on in
code. -/
theorem run_of_lexeme (hraw : dialect.rawStringMark.length ≤ 1)
    (hescape : dialect.escapeMark.length ≤ 1) {kind : TokenKind} {lexeme rest : List Char}
    (h : Lexeme dialect kind lexeme rest)
    (hfirst : ∀ earlier : TokenKind, earlier.rank < kind.rank →
      ¬ earlier.Applies dialect (lexeme ++ rest)) :
    (run dialect .code (lexeme ++ rest)).2 =
      (Token.identifier? dialect ⟨kind, lexeme⟩).toList ++ (run dialect .code rest).2 := by
  have notOpens : 4 < kind.rank → ∀ earlier region opening text,
      Opens dialect earlier region opening → lexeme ++ rest ≠ opening ++ text := by
    intro hrank earlier region opening text hopens heq
    have := hopens.rank_lt
    exact hfirst earlier (by omega) (heq ▸ applies_of_opens hopens text)
  -- An escape mark does not stand before an identifier where no escaped identifier applies.
  have notEscape : 5 < kind.rank → ∀ c next more, lexeme ++ rest = c :: next :: more →
      isMark dialect.escapeMark c = true → isIdentifierStart next = false := by
    intro hrank c next more heq hmark
    rw [isMark_iff] at hmark
    cases hnext : isIdentifierStart next with
    | false => rfl
    | true =>
      have happlies : TokenKind.escapedIdentifier.Applies dialect
          (dialect.escapeMark.toList ++ next :: more) :=
        applies_escapedIdentifier (by simp [hmark]) hnext more
      rw [hmark] at happlies
      exact absurd (heq ▸ happlies) (hfirst .escapedIdentifier hrank)
  cases h with
  | @region _ region opening body closing _ hopens hbody hends =>
    have hnone : Token.identifier? dialect ⟨kind, opening ++ (body ++ closing)⟩ = none := by
      cases hopens <;> rfl
    rw [List.append_assoc opening] at hfirst ⊢
    rw [hnone, run_of_opens hraw hopens hfirst, run_region hbody hends]
    rfl
  | @escapedIdentifier name _ hmark hname =>
    obtain ⟨mark, hmark⟩ := exists_singleton_of_mark hescape hmark
    obtain ⟨c, more, rfl, hc, hmore, hrest⟩ := hname.split
    have hid : Token.identifier? dialect
        ⟨.escapedIdentifier, dialect.escapeMark.toList ++ c :: more⟩ = some (c :: more) :=
      Text.after?_eq_some_iff.2 rfl
    have hnot := notOpens (by decide)
    rw [hid]
    rw [hmark] at hnot ⊢
    refine run_of_identifierFrom ?_ hmore hrest
    rw [codeStep_of_not_opens hnot]
    simp [isMark_iff.2 hmark, hc]
  | @identifier name _ hname =>
    obtain ⟨c, more, rfl, hc, hmore, hrest⟩ := hname.split
    have hid : Token.identifier? dialect ⟨.identifier, c :: more⟩ = some (c :: more) := rfl
    have hopens : ∀ earlier region opening text, Opens dialect earlier region opening →
        c :: (more ++ rest) ≠ opening ++ text := notOpens (by decide)
    have hescape := fun hmark next tail (htext : more ++ rest = next :: tail) =>
      notEscape (by decide) c next tail (by rw [List.cons_append, htext]) hmark
    rw [hid]
    exact run_of_identifierFrom ((codeStep_of_not_escape hopens hescape).trans (if_pos hc))
      hmore hrest
  | @other c _ =>
    have hc : isIdentifierStart c = false := by
      cases hc : isIdentifierStart c with
      | false => rfl
      | true => exact absurd (applies_identifier hc rest) (hfirst .identifier (by decide))
    have hopens : ∀ earlier region opening text, Opens dialect earlier region opening →
        c :: rest ≠ opening ++ text := notOpens (by decide)
    have hescape := fun hmark next tail (htext : rest = next :: tail) =>
      notEscape (by decide) c next tail (by rw [htext]; rfl) hmark
    have hs : codeStep dialect c rest = ⟨.code, none, rest⟩ := by
      rw [codeStep_of_not_escape hopens hescape, if_neg (by simp [hc])]
    exact congrArg Prod.snd (run_of_step hs)

end Sweep

/-! ## The tokens of a text -/

section

variable {dialect : Dialect}

theorem TokenKind.exists_first {kind : TokenKind} {text : List Char}
    (h : kind.Applies dialect text) :
    ∃ first : TokenKind, first.Applies dialect text ∧
      ∀ earlier : TokenKind, earlier.rank < first.rank → ¬ earlier.Applies dialect text := by
  induction hrank : kind.rank using Nat.strongRecOn generalizing kind with
  | ind n ih =>
    by_cases hearlier : ∃ earlier : TokenKind,
        earlier.rank < kind.rank ∧ earlier.Applies dialect text
    · obtain ⟨earlier, hlt, happlies⟩ := hearlier
      exact ih earlier.rank (hrank ▸ hlt) happlies rfl
    · exact ⟨kind, h, fun earlier hlt happlies => hearlier ⟨earlier, hlt, happlies⟩⟩

theorem exists_isFirstToken (dialect : Dialect) {text : List Char} (h : text ≠ []) :
    ∃ token rest, text = token.lexeme ++ rest ∧ IsFirstToken dialect token rest := by
  obtain ⟨c, more, rfl⟩ := List.exists_cons_of_ne_nil h
  have hother : TokenKind.other.Applies dialect (c :: more) := ⟨[c], more, rfl, .other⟩
  obtain ⟨kind, ⟨lexeme, rest, heq, hlexeme⟩, hfirst⟩ := TokenKind.exists_first hother
  exact ⟨⟨kind, lexeme⟩, rest, heq, hlexeme, heq ▸ hfirst⟩

theorem IsFirstToken.unique {token token' : Token} {rest rest' : List Char}
    (h : IsFirstToken dialect token rest) (h' : IsFirstToken dialect token' rest')
    (heq : token.lexeme ++ rest = token'.lexeme ++ rest') : token = token' ∧ rest = rest' := by
  obtain ⟨kind, lexeme⟩ := token
  obtain ⟨kind', lexeme'⟩ := token'
  obtain ⟨hlexeme, hfirst⟩ := h
  obtain ⟨hlexeme', hfirst'⟩ := h'
  simp only at heq hlexeme hlexeme' hfirst hfirst'
  have hge : ¬ kind'.rank < kind.rank := fun hlt => hfirst _ hlt ⟨_, _, heq, hlexeme'⟩
  have hle : ¬ kind.rank < kind'.rank := fun hlt => hfirst' _ hlt ⟨_, _, heq.symm, hlexeme⟩
  obtain rfl := TokenKind.rank_injective (a := kind) (b := kind') (by omega)
  obtain rfl := hlexeme.unique hlexeme' heq
  exact ⟨rfl, List.append_cancel_left heq⟩

theorem exists_tokenized (dialect : Dialect) (text : List Char) :
    ∃ tokens, Tokenized dialect text tokens := by
  induction hlen : text.length using Nat.strongRecOn generalizing text with
  | ind n ih =>
    by_cases htext : text = []
    · exact ⟨[], htext ▸ .nil⟩
    · obtain ⟨token, rest, rfl, hfirst⟩ := exists_isFirstToken dialect htext
      have hpos : 0 < token.lexeme.length := List.length_pos_iff.2 hfirst.lexeme.ne_nil
      rw [List.length_append] at hlen
      obtain ⟨tokens, htokens⟩ := ih rest.length (by omega) rest rfl
      exact ⟨token :: tokens, .cons hfirst htokens⟩

theorem Tokenized.unique {text : List Char} {tokens tokens' : List Token}
    (h : Tokenized dialect text tokens) (h' : Tokenized dialect text tokens') :
    tokens = tokens' := by
  induction h generalizing tokens' with
  | nil =>
    generalize htext : ([] : List Char) = text at h'
    cases h' with
    | nil => rfl
    | cons hfirst _ => exact absurd (List.append_eq_nil_iff.1 htext.symm).1 hfirst.lexeme.ne_nil
  | @cons token rest tokens hfirst _ ih =>
    generalize htext : token.lexeme ++ rest = text at h'
    cases h' with
    | nil => exact absurd (List.append_eq_nil_iff.1 htext).1 hfirst.lexeme.ne_nil
    | cons hfirst' h' =>
      obtain ⟨rfl, rfl⟩ := hfirst.unique hfirst' htext
      rw [ih h']

/-- The sweep finds the identifiers that the tokens of a text are, one after the other. -/
theorem Tokenized.all_eq (hraw : dialect.rawStringMark.length ≤ 1)
    (hescape : dialect.escapeMark.length ≤ 1) {text : List Char} {tokens : List Token}
    (h : Tokenized dialect text tokens) :
    Identifier.all dialect text = tokens.filterMap (Token.identifier? dialect) := by
  induction h with
  | nil => simp [Identifier.all]
  | @cons token rest tokens hfirst _ ih =>
    have hrun := Sweep.run_of_lexeme hraw hescape hfirst.lexeme hfirst.first
    rw [Identifier.all, hrun]
    cases hid : Token.identifier? dialect token with
    | none => rw [List.filterMap_cons_none hid]; exact ih
    | some name => rw [List.filterMap_cons_some hid]; exact congrArg (name :: ·) ih

end

/-- Every text has exactly one tokenization, and the names of its identifiers are what the sweep
finds. -/
theorem names_eq_names_of_tokens {dialect : Dialect} (hraw : dialect.rawStringMark.length ≤ 1)
    (hescape : dialect.escapeMark.length ≤ 1) (text : String) :
    ∃ tokens, Tokenized dialect text.toList tokens ∧
      (∀ tokens', Tokenized dialect text.toList tokens' → tokens' = tokens) ∧
      Identifier.names dialect text =
        (tokens.filterMap (Token.identifier? dialect)).map String.ofList := by
  obtain ⟨tokens, htokens⟩ := exists_tokenized dialect text.toList
  refine ⟨tokens, htokens, fun tokens' h' => h'.unique htokens, ?_⟩
  rw [Identifier.names, htokens.all_eq hraw hescape]

/-- A raw string with a doubled quote, an escaped identifier and a comment that is not closed. -/
theorem names_of_tokens_open_comment :
    Dialect.standard.rawStringMark.length ≤ 1 ∧ Dialect.standard.escapeMark.length ≤ 1 ∧
      ∃ tokens, Tokenized .standard "x = @\"a \"\"b\"\"\"; @y /* z".toList tokens ∧
        (∀ tokens', Tokenized .standard "x = @\"a \"\"b\"\"\"; @y /* z".toList tokens' →
          tokens' = tokens) ∧
        ["x", "y"] = (tokens.filterMap (Token.identifier? .standard)).map String.ofList := by
  have hraw : Dialect.standard.rawStringMark.length ≤ 1 := by decide
  have hescape : Dialect.standard.escapeMark.length ≤ 1 := by decide
  have hnames : Identifier.names .standard "x = @\"a \"\"b\"\"\"; @y /* z" = ["x", "y"] := by
    decide +kernel
  have h := names_eq_names_of_tokens hraw hescape "x = @\"a \"\"b\"\"\"; @y /* z"
  rw [hnames] at h
  exact ⟨hraw, hescape, h⟩

end Vetting
