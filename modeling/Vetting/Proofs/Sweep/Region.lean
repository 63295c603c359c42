import Vetting.Identifier

/-!
# Vetting.Proofs.Sweep.Region

What stands inside the regions that hold no code, said without the sweep: `Region.Holds` are the
texts of a region, and `Region.Ends` is how a region ends before the text that follows.

* `run_region`: the sweep passes over such a text and what ends it, and is in code after it.
* `Region.exists_ends`: every text that follows an opening splits like this.
* `Region.ends_unique`: it does so in one way only.
-/

namespace Vetting

/-- The text of a literal: a backslash takes the next character along, and the quote stands only
behind a backslash. -/
inductive Escaped (quote : Char) : List Char → Prop where
  | nil : Escaped quote []
  | pair {c : Char} {body : List Char} : Escaped quote body → Escaped quote ('\\' :: c :: body)
  | plain {c : Char} {body : List Char} :
      c ≠ '\\' → c ≠ quote → Escaped quote body → Escaped quote (c :: body)

/-- The text of a raw string: from left to right, quotes stand in pairs. -/
inductive Paired : List Char → Prop where
  | nil : Paired []
  | pair {body : List Char} : Paired body → Paired ('"' :: '"' :: body)
  | plain {c : Char} {body : List Char} : c ≠ '"' → Paired body → Paired (c :: body)

theorem Escaped.of_forall {quote : Char} {body : List Char} (hb : ∀ c ∈ body, c ≠ '\\')
    (hq : ∀ c ∈ body, c ≠ quote) : Escaped quote body := by
  induction body with
  | nil => exact .nil
  | cons c body ih =>
    exact .plain (hb c List.mem_cons_self) (hq c List.mem_cons_self)
      (ih (fun d hd => hb d (List.mem_cons_of_mem c hd))
        fun d hd => hq d (List.mem_cons_of_mem c hd))

theorem Paired.of_forall {body : List Char} (h : ∀ c ∈ body, c ≠ '"') : Paired body := by
  induction body with
  | nil => exact .nil
  | cons c body ih =>
    exact .plain (h c List.mem_cons_self) (ih fun d hd => h d (List.mem_cons_of_mem c hd))

namespace Region

/-- The texts that may stand inside a region, without what opens and ends it. -/
def Holds : Region → List Char → Prop
  | code, _ => False
  | lineComment, body => '\n' ∉ body
  | blockComment, body => ¬ ['*', '/'] <:+: body
  | string, body => Escaped '"' body
  | rawString, body => Paired body
  | character, body => Escaped '\'' body

/-- How a region ends when `rest` follows: with its closing mark, or with the text. A backslash at
the end of the text has nothing to take along. -/
inductive Ends : Region → (closing rest : List Char) → Prop where
  | newline {rest : List Char} : Ends lineComment ['\n'] rest
  | comment {rest : List Char} : Ends blockComment ['*', '/'] rest
  | quote {rest : List Char} : Ends string ['"'] rest
  | rawQuote {rest : List Char} : rest.head? ≠ some '"' → Ends rawString ['"'] rest
  | apostrophe {rest : List Char} : Ends character ['\''] rest
  | text {region : Region} : region ≠ code → Ends region [] []
  | cutString : Ends string ['\\'] []
  | cutCharacter : Ends character ['\\'] []

/-- Text without any of the marks may stand inside every region but code. -/
theorem holds_of_plain {region : Region} (hregion : region ≠ code) {body : List Char}
    (h : ∀ c ∈ body, c ∉ ['\n', '*', '"', '\'', '\\']) : region.Holds body := by
  have hne : ∀ mark ∈ ['\n', '*', '"', '\'', '\\'], ∀ c ∈ body, c ≠ mark := by
    rintro mark hmark c hc rfl
    exact h c hc hmark
  cases region with
  | code => exact absurd rfl hregion
  | lineComment => exact fun hmem => hne '\n' (by simp) _ hmem rfl
  | blockComment => exact fun hin => hne '*' (by simp) _ (hin.subset List.mem_cons_self) rfl
  | string => exact Escaped.of_forall (hne _ (by simp)) (hne _ (by simp))
  | rawString => exact Paired.of_forall (hne _ (by simp))
  | character => exact Escaped.of_forall (hne _ (by simp)) (hne _ (by simp))

end Region

/-! ## The sweep inside a region -/

namespace Sweep

variable {dialect : Dialect}

@[simp] theorem run_nil (region : Region) : run dialect region [] = (region, []) := by
  rw [run]

theorem run_cons (region : Region) (c : Char) (rest : List Char) :
    run dialect region (c :: rest) =
      ((run dialect (step dialect region c rest).region (step dialect region c rest).rest).1,
        (step dialect region c rest).identifier?.toList ++
          (run dialect (step dialect region c rest).region
            (step dialect region c rest).rest).2) := by
  rw [run]

/-- A step that finds no identifier. -/
theorem run_of_step {region after : Region} {c : Char} {text rest : List Char}
    (h : step dialect region c text = ⟨after, none, rest⟩) :
    run dialect region (c :: text) = run dialect after rest := by
  rw [run_cons, h]
  rfl

theorem run_lineComment {body : List Char} (h : '\n' ∉ body) (rest : List Char) :
    run dialect .lineComment (body ++ rest) = run dialect .lineComment rest := by
  induction body with
  | nil => rfl
  | cons c body ih =>
    have hc : c ≠ '\n' := fun e => h (by simp [e])
    have hs : step dialect .lineComment c (body ++ rest) = ⟨.lineComment, none, body ++ rest⟩ := by
      simp [step, hc]
    rw [List.cons_append, run_of_step hs]
    exact ih fun hmem => h (List.mem_cons_of_mem c hmem)

/-- What follows the text must not make a closing mark of the star at its end. -/
theorem run_blockComment {body rest : List Char} (h : ¬ ['*', '/'] <:+: body)
    (hrest : rest.head? ≠ some '/') :
    run dialect .blockComment (body ++ rest) = run dialect .blockComment rest := by
  induction body with
  | nil => rfl
  | cons c body ih =>
    rw [List.infix_cons_iff, not_or] at h
    have hc : ¬ (c = '*' ∧ (body ++ rest).head? = some '/') := by
      rintro ⟨rfl, hhead⟩
      cases body with
      | nil => exact hrest hhead
      | cons d body =>
        obtain rfl : d = '/' := by simpa using hhead
        exact h.1 ⟨body, rfl⟩
    have hs : step dialect .blockComment c (body ++ rest) =
        ⟨.blockComment, none, body ++ rest⟩ := by
      simp only [step, if_neg hc]
    rw [List.cons_append, run_of_step hs]
    exact ih h.2

/-- The two literals with escapes. -/
theorem run_literal {inside : Region} {quote : Char}
    (hstep : ∀ c rest, step dialect inside c rest = literalStep inside quote c rest)
    {body : List Char} (h : Escaped quote body) (rest : List Char) :
    run dialect inside (body ++ rest) = run dialect inside rest := by
  induction h with
  | nil => rfl
  | @pair c body _ ih =>
    have hs : step dialect inside '\\' (c :: (body ++ rest)) = ⟨inside, none, body ++ rest⟩ := by
      simp [hstep, literalStep]
    rw [List.cons_append, List.cons_append, run_of_step hs, ih]
  | @plain c body hc hq _ ih =>
    have hs : step dialect inside c (body ++ rest) = ⟨inside, none, body ++ rest⟩ := by
      simp [hstep, literalStep, hc, hq]
    rw [List.cons_append, run_of_step hs, ih]

theorem run_rawString {body : List Char} (h : Paired body) (rest : List Char) :
    run dialect .rawString (body ++ rest) = run dialect .rawString rest := by
  induction h with
  | nil => rfl
  | @pair body _ ih =>
    have hs : step dialect .rawString '"' ('"' :: (body ++ rest)) =
        ⟨.rawString, none, body ++ rest⟩ := by
      simp [step]
    rw [List.cons_append, List.cons_append, run_of_step hs, ih]
  | @plain c body hc _ ih =>
    have hs : step dialect .rawString c (body ++ rest) = ⟨.rawString, none, body ++ rest⟩ := by
      simp [step, hc]
    rw [List.cons_append, run_of_step hs, ih]

/-- The sweep passes over what a region holds. -/
theorem run_of_holds {region : Region} {body rest : List Char} (h : region.Holds body)
    (hrest : region = .blockComment → rest.head? ≠ some '/') :
    run dialect region (body ++ rest) = run dialect region rest := by
  cases region with
  | code => exact h.elim
  | lineComment => exact run_lineComment h rest
  | blockComment => exact run_blockComment h (hrest rfl)
  | string => exact run_literal (fun _ _ => rfl) h rest
  | rawString => exact run_rawString h rest
  | character => exact run_literal (fun _ _ => rfl) h rest

/-- What ends a region is passed over as well: the sweep finds no identifiers in it, and goes on as
in code. -/
theorem run_of_ends {region : Region} {closing rest : List Char} (h : region.Ends closing rest) :
    (run dialect region (closing ++ rest)).2 = (run dialect .code rest).2 := by
  cases h with
  | newline =>
    have hs : step dialect .lineComment '\n' rest = ⟨.code, none, rest⟩ := rfl
    exact congrArg Prod.snd (run_of_step hs)
  | comment =>
    have hs : step dialect .blockComment '*' ('/' :: rest) = ⟨.code, none, rest⟩ := rfl
    exact congrArg Prod.snd (run_of_step hs)
  | quote =>
    have hs : step dialect .string '"' rest = ⟨.code, none, rest⟩ := rfl
    exact congrArg Prod.snd (run_of_step hs)
  | rawQuote hrest =>
    have hs : step dialect .rawString '"' rest = ⟨.code, none, rest⟩ := by
      simp [step, hrest]
    exact congrArg Prod.snd (run_of_step hs)
  | apostrophe =>
    have hs : step dialect .character '\'' rest = ⟨.code, none, rest⟩ := rfl
    exact congrArg Prod.snd (run_of_step hs)
  | text => simp
  | cutString =>
    have hs : step dialect .string '\\' [] = ⟨.string, none, []⟩ := rfl
    simp [run_of_step hs]
  | cutCharacter =>
    have hs : step dialect .character '\\' [] = ⟨.character, none, []⟩ := rfl
    simp [run_of_step hs]

/-- A region that is closed leaves the sweep in code. -/
theorem run_region {region : Region} {body closing rest : List Char} (h : region.Holds body)
    (hends : region.Ends closing rest) :
    (run dialect region (body ++ closing ++ rest)).2 = (run dialect .code rest).2 := by
  have hrest : region = .blockComment → (closing ++ rest).head? ≠ some '/' := by
    rintro rfl
    cases hends <;> simp
  rw [List.append_assoc, run_of_holds h hrest, run_of_ends hends]

end Sweep

/-! ## Where a region ends -/

namespace Region

theorem exists_line (text : List Char) :
    ∃ body closing rest, text = body ++ closing ++ rest ∧ '\n' ∉ body ∧
      lineComment.Ends closing rest := by
  induction text with
  | nil => exact ⟨[], [], [], rfl, by simp, .text nofun⟩
  | cons c text ih =>
    by_cases hc : c = '\n'
    · subst hc
      exact ⟨[], ['\n'], text, rfl, by simp, .newline⟩
    · obtain ⟨body, closing, rest, rfl, hbody, hends⟩ := ih
      exact ⟨c :: body, closing, rest, rfl, by simp [Ne.symm hc, hbody], hends⟩

theorem exists_comment (text : List Char) :
    ∃ body closing rest, text = body ++ closing ++ rest ∧ ¬ ['*', '/'] <:+: body ∧
      blockComment.Ends closing rest := by
  induction text with
  | nil => exact ⟨[], [], [], rfl, by simp, .text nofun⟩
  | cons c text ih =>
    by_cases hc : c = '*' ∧ text.head? = some '/'
    · obtain ⟨rfl, hhead⟩ := hc
      obtain ⟨rest, rfl⟩ := List.head?_eq_some_iff.1 hhead
      exact ⟨[], ['*', '/'], rest, rfl, by simp, .comment⟩
    · obtain ⟨body, closing, rest, rfl, hbody, hends⟩ := ih
      refine ⟨c :: body, closing, rest, rfl, ?_, hends⟩
      rw [List.infix_cons_iff, not_or]
      refine ⟨?_, hbody⟩
      rintro ⟨tail, htail⟩
      obtain ⟨rfl, rfl⟩ := List.cons.inj htail
      exact hc ⟨rfl, rfl⟩

theorem exists_literal (quote : Char) :
    ∀ text : List Char, ∃ body rest, text = body ++ rest ∧ Escaped quote body ∧
      (rest = [] ∨ rest = ['\\'] ∨ rest.head? = some quote)
  | [] => ⟨[], [], rfl, .nil, .inl rfl⟩
  | [c] => by
    by_cases hc : c = '\\'
    · exact ⟨[], [c], rfl, .nil, .inr (.inl (by rw [hc]))⟩
    · by_cases hq : c = quote
      · exact ⟨[], [c], rfl, .nil, .inr (.inr (by rw [hq]; rfl))⟩
      · exact ⟨[c], [], rfl, .plain hc hq .nil, .inl rfl⟩
  | c :: d :: text => by
    by_cases hc : c = '\\'
    · obtain ⟨body, rest, rfl, hbody, hrest⟩ := exists_literal quote text
      exact ⟨c :: d :: body, rest, rfl, hc ▸ .pair hbody, hrest⟩
    · by_cases hq : c = quote
      · exact ⟨[], c :: d :: text, rfl, .nil, .inr (.inr (by rw [hq]; rfl))⟩
      · obtain ⟨body, rest, htext, hbody, hrest⟩ := exists_literal quote (d :: text)
        exact ⟨c :: body, rest, by rw [htext]; rfl, .plain hc hq hbody, hrest⟩

theorem exists_paired :
    ∀ text : List Char, ∃ body closing rest, text = body ++ closing ++ rest ∧ Paired body ∧
      rawString.Ends closing rest
  | [] => ⟨[], [], [], rfl, .nil, .text nofun⟩
  | [c] => by
    by_cases hc : c = '"'
    · exact ⟨[], [c], [], rfl, .nil, by rw [hc]; exact .rawQuote nofun⟩
    · exact ⟨[c], [], [], rfl, .plain hc .nil, .text nofun⟩
  | c :: d :: text => by
    by_cases hc : c = '"'
    · by_cases hd : d = '"'
      · obtain ⟨body, closing, rest, rfl, hbody, hends⟩ := exists_paired text
        exact ⟨c :: d :: body, closing, rest, rfl, by rw [hc, hd]; exact .pair hbody, hends⟩
      · exact ⟨[], [c], d :: text, rfl, .nil, by rw [hc]; exact .rawQuote (by simp [hd])⟩
    · obtain ⟨body, closing, rest, htext, hbody, hends⟩ := exists_paired (d :: text)
      exact ⟨c :: body, closing, rest, by rw [htext]; rfl, .plain hc hbody, hends⟩

/-- Every text inside a region splits into what the region holds, what ends it, and the rest. -/
theorem exists_ends {region : Region} (h : region ≠ code) (text : List Char) :
    ∃ body closing rest, text = body ++ closing ++ rest ∧ region.Holds body ∧
      region.Ends closing rest := by
  cases region with
  | code => exact absurd rfl h
  | lineComment => exact exists_line text
  | blockComment => exact exists_comment text
  | rawString => exact exists_paired text
  | string =>
    obtain ⟨body, rest, rfl, hbody, rfl | rfl | hrest⟩ := exists_literal '"' text
    · exact ⟨body, [], [], by simp, hbody, .text h⟩
    · exact ⟨body, ['\\'], [], by simp, hbody, .cutString⟩
    · obtain ⟨rest, rfl⟩ := List.head?_eq_some_iff.1 hrest
      exact ⟨body, ['"'], rest, by simp, hbody, .quote⟩
  | character =>
    obtain ⟨body, rest, rfl, hbody, rfl | rfl | hrest⟩ := exists_literal '\'' text
    · exact ⟨body, [], [], by simp, hbody, .text h⟩
    · exact ⟨body, ['\\'], [], by simp, hbody, .cutCharacter⟩
    · obtain ⟨rest, rfl⟩ := List.head?_eq_some_iff.1 hrest
      exact ⟨body, ['\''], rest, by simp, hbody, .apostrophe⟩

end Region

theorem Escaped.tail {quote c : Char} {body : List Char} (hc : c ≠ '\\')
    (h : Escaped quote (c :: body)) : Escaped quote body := by
  cases h with
  | pair => exact absurd rfl hc
  | plain _ _ h => exact h

theorem Escaped.of_append {quote : Char} {front back : List Char} (h : Escaped quote front) :
    Escaped quote (front ++ back) → Escaped quote back := by
  induction h with
  | nil => exact id
  | pair _ ih =>
    intro hall
    cases hall with
    | pair hall => exact ih hall
    | plain hc _ _ => exact absurd rfl hc
  | plain hc _ _ ih => exact fun hall => ih (hall.tail hc)

theorem Paired.tail {c : Char} {body : List Char} (hc : c ≠ '"') (h : Paired (c :: body)) :
    Paired body := by
  cases h with
  | pair => exact absurd rfl hc
  | plain _ h => exact h

theorem Paired.of_append {front back : List Char} (h : Paired front) :
    Paired (front ++ back) → Paired back := by
  induction h with
  | nil => exact id
  | pair _ ih =>
    intro hall
    cases hall with
    | pair hall => exact ih hall
    | plain hc _ => exact absurd rfl hc
  | plain hc _ ih => exact fun hall => ih (hall.tail hc)

namespace Region

/-- What a region holds after something that it holds is held as well. -/
theorem Holds.of_append {region : Region} {front back : List Char} (h : region.Holds front)
    (hall : region.Holds (front ++ back)) : region.Holds back := by
  cases region with
  | code => exact h
  | lineComment => exact fun hmem => hall (List.mem_append_right front hmem)
  | blockComment => exact fun hin => hall (hin.trans (List.suffix_append front back).isInfix)
  | string => exact Escaped.of_append h hall
  | rawString => exact Paired.of_append h hall
  | character => exact Escaped.of_append h hall

/-- Where a region ends, nothing that it holds goes on. -/
theorem eq_nil_of_ends {region : Region} {body closing rest closing' rest' : List Char}
    (hends : region.Ends closing rest) (h : region.Holds body)
    (hends' : region.Ends closing' rest')
    (heq : closing ++ rest = body ++ (closing' ++ rest')) : body = [] := by
  cases body with
  | nil => rfl
  | cons c body =>
    exfalso
    rw [List.cons_append] at heq
    cases hends with
    | newline =>
      obtain ⟨rfl, -⟩ := List.cons.inj heq
      exact h List.mem_cons_self
    | comment =>
      obtain ⟨rfl, hnext⟩ := List.cons.inj heq
      cases body with
      | nil => cases hends' <;> simp at hnext
      | cons d body =>
        obtain ⟨rfl, -⟩ := List.cons.inj hnext
        exact h ⟨[], body, rfl⟩
    | quote =>
      obtain ⟨rfl, -⟩ := List.cons.inj heq
      cases h with
      | plain _ hq _ => exact hq rfl
    | apostrophe =>
      obtain ⟨rfl, -⟩ := List.cons.inj heq
      cases h with
      | plain _ hq _ => exact hq rfl
    | rawQuote hrest =>
      obtain ⟨rfl, hnext⟩ := List.cons.inj heq
      cases h with
      | pair => exact hrest (congrArg List.head? hnext)
      | plain hc _ => exact hc rfl
    | text => cases heq
    | cutString =>
      obtain ⟨rfl, hnext⟩ := List.cons.inj heq
      cases h with
      | pair => cases hnext
      | plain hc _ _ => exact hc rfl
    | cutCharacter =>
      obtain ⟨rfl, hnext⟩ := List.cons.inj heq
      cases h with
      | pair => cases hnext
      | plain hc _ _ => exact hc rfl

/-- A text inside a region splits in one way only. -/
theorem ends_unique {region : Region} {body closing rest body' closing' rest' : List Char}
    (h : region.Holds body) (hends : region.Ends closing rest) (h' : region.Holds body')
    (hends' : region.Ends closing' rest')
    (heq : body ++ closing ++ rest = body' ++ closing' ++ rest') :
    body = body' ∧ closing = closing' := by
  rw [List.append_assoc, List.append_assoc] at heq
  have hbody : body = body' := by
    rcases List.append_eq_append_iff.1 heq with ⟨more, rfl, hmore⟩ | ⟨more, rfl, hmore⟩
    · rw [eq_nil_of_ends hends (h.of_append h') hends' hmore, List.append_nil]
    · rw [eq_nil_of_ends hends' (h'.of_append h) hends hmore, List.append_nil]
  subst hbody
  refine ⟨rfl, ?_⟩
  have heq := List.append_cancel_left heq
  cases hends <;> cases hends' <;> simp at heq ⊢

end Region

end Vetting
