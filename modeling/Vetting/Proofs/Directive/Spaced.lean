import Vetting.Directive
import Vetting.Proofs.Text.Line

/-!
# Vetting.Proofs.Directive.Spaced

Blanks, names, and names joined by dots, as the rules of the standard grammar read them. Blanks are
of any kind here, those that end a line included: the grammar has no rule for lines.

* `Blanks.append_inj`, `Name.append_inj`: where blanks end, and where a name does.
* `SpacedPath.qualified_written`: the rule for qualified names reads a path to its end.
* `SpacedPath.aliasClause_written`: no path starts like an alias.
-/

namespace Vetting

/-- A text whose characters are all of one kind. -/
@[ext] structure TextOf (p : Char → Bool) where
  text : List Char
  all_text : text.all p = true

theorem TextOf.of_mem {p : Char → Bool} (piece : TextOf p) {c : Char} (h : c ∈ piece.text) :
    p c = true :=
  List.all_eq_true.1 piece.all_text c h

/-! ## Blanks -/

/-- Blanks of the grammar. -/
abbrev Blanks := TextOf isBlank

namespace Blanks

theorem isSpace_of_mem {blanks : Blanks} {c : Char} (h : c ∈ blanks.text) : isSpace c = true :=
  isSpace_of_isBlank (blanks.of_mem h)

theorem exists_cons (blanks : Blanks) (h : blanks.text ≠ []) :
    ∃ c rest, blanks.text = c :: rest ∧ isBlank c = true := by
  obtain ⟨c, rest, hcons⟩ := List.exists_cons_of_ne_nil h
  exact ⟨c, rest, hcons, blanks.of_mem (hcons ▸ List.mem_cons_self)⟩

/-- The rule for gaps takes blanks and nothing behind them. -/
theorem gap_append_of_head (blanks : Blanks) {text : List Char}
    (h : ∀ c ∈ text.head?, isBlank c = false) : Grammar.gap (blanks.text ++ text) = text := by
  rw [Grammar.gap, List.dropWhile_append_of_pos fun d hd => blanks.of_mem hd]
  cases text with
  | nil => rfl
  | cons c text => exact List.dropWhile_cons_of_neg (by simp [h c rfl])

theorem gap_append (blanks : Blanks) {c : Char} (h : isBlank c = false) (rest : List Char) :
    Grammar.gap (blanks.text ++ c :: rest) = c :: rest :=
  blanks.gap_append_of_head fun _ hd => Option.some.inj hd ▸ h

theorem blanks_append (blanks : Blanks) (hne : blanks.text ≠ []) {text : List Char}
    (h : ∀ c ∈ text.head?, isBlank c = false) :
    Grammar.blanks (blanks.text ++ text) = some text := by
  obtain ⟨d, more, hcons, hd⟩ := blanks.exists_cons hne
  have hall := gap_append_of_head blanks h
  rw [hcons, List.cons_append, Grammar.gap, List.dropWhile_cons_of_pos hd] at hall
  rw [hcons, List.cons_append, Grammar.blanks, if_pos hd, Grammar.gap, hall]

theorem append_inj {a b : Blanks} {text text' : List Char}
    (htext : ∀ c ∈ text.head?, isBlank c = false) (htext' : ∀ c ∈ text'.head?, isBlank c = false)
    (h : a.text ++ text = b.text ++ text') : a = b ∧ text = text' := by
  have heq : text = text' := by
    rw [← a.gap_append_of_head htext, h, b.gap_append_of_head htext']
  subst heq
  exact ⟨TextOf.ext (List.append_cancel_right h), rfl⟩

theorem append_cons_inj {a b : Blanks} {c d : Char} (hc : isBlank c = false)
    (hd : isBlank d = false) {rest rest' : List Char}
    (h : a.text ++ c :: rest = b.text ++ d :: rest') : a = b ∧ c = d ∧ rest = rest' := by
  have hhead : ∀ e ∈ (c :: rest).head?, isBlank e = false := fun _ he => Option.some.inj he ▸ hc
  have hhead' : ∀ e ∈ (d :: rest').head?, isBlank e = false := fun _ he => Option.some.inj he ▸ hd
  obtain ⟨heq, hcons⟩ := append_inj hhead hhead' h
  obtain ⟨hsign, hrest⟩ := List.cons.inj hcons
  exact ⟨heq, hsign, hrest⟩

end Blanks

/-! ## Names -/

/-- A text with which no word goes on. -/
def EndsWord (text : List Char) : Prop := ∀ c ∈ text.head?, isWord c = false

theorem endsWord_cons {c : Char} (h : isWord c = false) (rest : List Char) :
    EndsWord (c :: rest) := by
  rintro d hd
  obtain rfl := Option.some.inj hd
  exact h

theorem endsWord_blanks (blanks : Blanks) {c : Char} (h : isWord c = false) (rest : List Char) :
    EndsWord (blanks.text ++ c :: rest) := by
  by_cases hne : blanks.text = []
  · rw [hne]
    exact endsWord_cons h rest
  · obtain ⟨d, more, hcons, hd⟩ := blanks.exists_cons hne
    rw [hcons]
    exact endsWord_cons (isWord_of_isSpace (isSpace_of_isBlank hd)) _

theorem dropWhile_isWord_of_endsWord {text : List Char} (h : EndsWord text) :
    text.dropWhile isWord = text := by
  cases text with
  | nil => rfl
  | cons c text => exact List.dropWhile_cons_of_neg (by simp [h c rfl])

/-- A name as it is written. -/
structure Name where
  isEscaped : Bool
  first : Char
  more : List Char
  isNameStart_first : isNameStart first = true
  isWord_more : more.all isWord = true

namespace Name

def text (name : Name) : List Char :=
  (if name.isEscaped then ['@'] else []) ++ name.first :: name.more

theorem isWord_first (name : Name) : isWord name.first = true :=
  isWord_of_isNameStart name.isNameStart_first

theorem eq_or_isWord_of_mem {name : Name} {c : Char} (h : c ∈ name.text) :
    c = '@' ∨ isWord c = true := by
  rcases List.mem_append.1 h with hmark | hword
  · split at hmark
    · exact .inl (List.mem_singleton.1 hmark)
    · cases hmark
  · rcases List.mem_cons.1 hword with rfl | hmore
    · exact .inr name.isWord_first
    · exact .inr (List.all_eq_true.1 name.isWord_more c hmore)

theorem isSpace_of_mem {name : Name} {c : Char} (h : c ∈ name.text) : isSpace c = false := by
  rcases eq_or_isWord_of_mem h with rfl | hword
  · decide
  · exact isSpace_of_isWord hword

theorem oneLine (name : Name) : Text.OneLine name.text :=
  fun _ hc => isLineBreak_of_isSpace (isSpace_of_mem hc)

theorem exists_cons (name : Name) :
    ∃ c rest, name.text = c :: rest ∧ isSpace c = false := by
  have hne : name.text ≠ [] := by simp [text]
  obtain ⟨c, rest, hcons⟩ := List.exists_cons_of_ne_nil hne
  exact ⟨c, rest, hcons, isSpace_of_mem (hcons ▸ List.mem_cons_self)⟩

theorem isBlank_head (name : Name) (rest : List Char) :
    ∀ c ∈ (name.text ++ rest).head?, isBlank c = false := by
  obtain ⟨d, more, hcons, hd⟩ := name.exists_cons
  rw [hcons]
  rintro c hc
  obtain rfl := Option.some.inj hc
  exact isBlank_of_isSpace hd

theorem first_ne_mark (name : Name) : name.first ≠ '@' := by
  intro hat
  have hword := name.isWord_first
  rw [hat] at hword
  exact absurd hword (by decide)

/-- The rule for names reads a name to its end. -/
theorem maybeMarkedName_append (name : Name) {rest : List Char} (h : EndsWord rest) :
    Grammar.maybeMarkedName '@' (name.text ++ rest) = some rest := by
  have hbare : Grammar.bareName (name.first :: (name.more ++ rest)) = some rest := by
    rw [Grammar.bareName, if_pos name.isNameStart_first,
      List.dropWhile_append_of_pos (List.all_eq_true.1 name.isWord_more),
      dropWhile_isWord_of_endsWord h]
  cases hmark : name.isEscaped with
  | true =>
    simp only [text, hmark, if_true, List.cons_append, List.nil_append]
    rw [Grammar.maybeMarkedName, if_pos rfl, hbare]
    rfl
  | false =>
    simp only [text, hmark, Bool.false_eq_true, if_false, List.cons_append, List.nil_append]
    rw [Grammar.maybeMarkedName, if_neg name.first_ne_mark, hbare]

theorem text_injective {a b : Name} (h : a.text = b.text) : a = b := by
  obtain ⟨escaped, first, more, hfirst, hmore⟩ := a
  obtain ⟨escaped', first', more', hfirst', hmore'⟩ := b
  have hne := first_ne_mark ⟨escaped, first, more, hfirst, hmore⟩
  have hne' := first_ne_mark ⟨escaped', first', more', hfirst', hmore'⟩
  simp only at hne hne'
  -- A name that is escaped starts with the mark, and no other one does.
  cases escaped with
  | true =>
    cases escaped' with
    | true =>
      simp only [text, if_true, List.cons_append, List.nil_append, List.cons.injEq] at h
      obtain ⟨-, rfl, rfl⟩ := h
      rfl
    | false =>
      simp only [text, if_true, Bool.false_eq_true, if_false, List.cons_append, List.nil_append,
        List.cons.injEq] at h
      exact absurd h.1.symm hne'
  | false =>
    cases escaped' with
    | true =>
      simp only [text, if_true, Bool.false_eq_true, if_false, List.cons_append, List.nil_append,
        List.cons.injEq] at h
      exact absurd h.1 hne
    | false =>
      simp only [text, Bool.false_eq_true, if_false, List.nil_append, List.cons.injEq] at h
      obtain ⟨rfl, rfl⟩ := h
      rfl

theorem append_inj {a b : Name} {text text' : List Char} (htext : EndsWord text)
    (htext' : EndsWord text') (h : a.text ++ text = b.text ++ text') : a = b ∧ text = text' := by
  have hread := a.maybeMarkedName_append htext
  rw [h, b.maybeMarkedName_append htext'] at hread
  obtain rfl := Option.some.inj hread
  exact ⟨text_injective (List.append_cancel_right h), rfl⟩

/-- Where a name and a text behind it start with a word, the name is that word or goes on after
it. -/
theorem eq_or_exists_of_append_eq {name : Name} {tail word rest : List Char} (htail : EndsWord tail)
    (hword : word.all isWord = true) (h : name.text ++ tail = word ++ rest) :
    name.text = word ∧ tail = rest ∨ ∃ c ∈ name.text, ∃ more, rest = c :: more := by
  rcases List.append_eq_append_iff.1 h with ⟨more, hmore, hrest⟩ | ⟨more, hmore, hrest⟩
  · cases more with
    | nil => exact .inl ⟨by simpa using hmore.symm, by simpa using hrest⟩
    | cons c more =>
      -- The name would end inside the word, and the text behind it goes on with the word.
      have hc : isWord c = true := List.all_eq_true.1 hword c (by rw [hmore]; simp)
      have hend : isWord c = false := htail c (by rw [hrest]; rfl)
      rw [hc] at hend
      cases hend
  · cases more with
    | nil => exact .inl ⟨by simpa using hmore, by simpa using hrest.symm⟩
    | cons c more => exact .inr ⟨c, by rw [hmore]; simp, more ++ tail, hrest⟩

theorem gap_append (name : Name) (blanks : Blanks) (rest : List Char) :
    Grammar.gap (blanks.text ++ (name.text ++ rest)) = name.text ++ rest :=
  blanks.gap_append_of_head (name.isBlank_head rest)

/-- A name is an alias where an equals sign follows it. -/
theorem aliasClause_equals (name : Name) (blanks : Blanks) (rest : List Char) :
    Grammar.aliasClause (Grammar.maybeMarkedName '@') (name.text ++ (blanks.text ++ '=' :: rest)) =
      some (Grammar.gap rest) := by
  have hname : Grammar.maybeMarkedName '@' (name.text ++ (blanks.text ++ '=' :: rest)) =
      some (blanks.text ++ '=' :: rest) :=
    name.maybeMarkedName_append (endsWord_blanks blanks (by decide) _)
  have hsign : Grammar.gap (blanks.text ++ '=' :: rest) = '=' :: rest :=
    blanks.gap_append (by decide) _
  simp [Grammar.aliasClause, hname, hsign]

theorem aliasClause_of_ne (name : Name) (blanks : Blanks) {c : Char} (hblank : isBlank c = false)
    (hword : isWord c = false) (hc : c ≠ '=') (rest : List Char) :
    Grammar.aliasClause (Grammar.maybeMarkedName '@') (name.text ++ (blanks.text ++ c :: rest)) =
      none := by
  have hname : Grammar.maybeMarkedName '@' (name.text ++ (blanks.text ++ c :: rest)) =
      some (blanks.text ++ c :: rest) :=
    name.maybeMarkedName_append (endsWord_blanks blanks hword _)
  simp [Grammar.aliasClause, hname, blanks.gap_append hblank, hc]

end Name

/-! ## Names joined by dots -/

/-- A dotted path as it is written. Before every name but the first there is a dot in blanks. -/
structure SpacedPath where
  first : Name
  more : List (Blanks × Blanks × Name)

namespace SpacedPath

open Grammar

/-- The names behind the first one as they are written. -/
def writtenMore (more : List (Blanks × Blanks × Name)) : List Char :=
  more.flatMap fun (before, after, name) => before.text ++ '.' :: (after.text ++ name.text)

def written (path : SpacedPath) : List Char := path.first.text ++ writtenMore path.more

/-- The names joined by dots. -/
def dotted (path : SpacedPath) : List Char :=
  path.first.text ++ path.more.flatMap fun (_, _, name) => '.' :: name.text

theorem writtenMore_cons (before after : Blanks) (name : Name)
    (more : List (Blanks × Blanks × Name)) (rest : List Char) :
    writtenMore ((before, after, name) :: more) ++ rest =
      before.text ++ '.' :: (after.text ++ (name.text ++ (writtenMore more ++ rest))) := by
  simp [writtenMore]

theorem endsWord_writtenMore (more : List (Blanks × Blanks × Name)) {rest : List Char}
    (h : EndsWord rest) : EndsWord (writtenMore more ++ rest) := by
  cases more with
  | nil => exact h
  | cons part more =>
    obtain ⟨before, after, name⟩ := part
    rw [writtenMore_cons]
    exact endsWord_blanks before (by decide) _

theorem dotName_append (before after : Blanks) (name : Name) {rest : List Char}
    (h : EndsWord rest) :
    dotName (maybeMarkedName '@') (before.text ++ '.' :: (after.text ++ (name.text ++ rest))) =
      some rest := by
  have hdot : gap (before.text ++ '.' :: (after.text ++ (name.text ++ rest))) =
      '.' :: (after.text ++ (name.text ++ rest)) := before.gap_append (by decide) _
  simp only [dotName, hdot, name.gap_append]
  exact name.maybeMarkedName_append h

theorem dotName_semicolon (blanks : Blanks) (rest : List Char) :
    dotName (maybeMarkedName '@') (blanks.text ++ ';' :: rest) = none := by
  have hsign : Grammar.gap (blanks.text ++ ';' :: rest) = ';' :: rest :=
    blanks.gap_append (by decide) _
  simp [dotName, hsign]

theorem dotName_shrinks {text rest : List Char}
    (h : dotName (maybeMarkedName '@') text = some rest) : rest.length < text.length :=
  length_lt_of_dotName (fun h => Nat.le_of_lt (length_lt_of_maybeMarkedName h)) h

/-- The names behind the first one are read to their end, by induction on how many there are. -/
theorem many_writtenMore (more : List (Blanks × Blanks × Name)) (closing : Blanks)
    (rest : List Char) :
    many (dotName (maybeMarkedName '@')) (writtenMore more ++ (closing.text ++ ';' :: rest)) =
      closing.text ++ ';' :: rest := by
  induction more with
  | nil =>
    show many _ (closing.text ++ ';' :: rest) = _
    rw [many_of_shrinking dotName_shrinks, dotName_semicolon]
  | cons part more ih =>
    obtain ⟨before, after, name⟩ := part
    have hend : EndsWord (writtenMore more ++ (closing.text ++ ';' :: rest)) :=
      endsWord_writtenMore more (endsWord_blanks closing (by decide) rest)
    rw [writtenMore_cons, many_of_shrinking dotName_shrinks,
      dotName_append before after name hend]
    exact ih

variable (path : SpacedPath) (closing : Blanks) (rest : List Char)

theorem endsWord_behindFirst :
    EndsWord (writtenMore path.more ++ (closing.text ++ ';' :: rest)) :=
  endsWord_writtenMore path.more (endsWord_blanks closing (by decide) rest)

theorem qualified_written :
    qualified (maybeMarkedName '@') (path.written ++ (closing.text ++ ';' :: rest)) =
      some (closing.text ++ ';' :: rest) := by
  rw [qualified, written, List.append_assoc,
    path.first.maybeMarkedName_append (path.endsWord_behindFirst closing rest),
    Option.map_some, many_writtenMore]

/-- Behind the first name stand blanks, and a dot or the semicolon. -/
theorem exists_behindFirst :
    ∃ blanks : Blanks, ∃ c tail, writtenMore path.more ++ (closing.text ++ ';' :: rest) =
      blanks.text ++ c :: tail ∧ (c = '.' ∨ c = ';') := by
  cases path.more with
  | nil => exact ⟨closing, ';', rest, rfl, .inr rfl⟩
  | cons part more =>
    obtain ⟨before, after, name⟩ := part
    exact ⟨before, '.', _, writtenMore_cons before after name more _, .inl rfl⟩

theorem head_behindFirst {c : Char}
    (h : c ∈ (writtenMore path.more ++ (closing.text ++ ';' :: rest)).head?) :
    isBlank c = true ∨ c = '.' ∨ c = ';' := by
  obtain ⟨blanks, sign, tail, hcons, hsign⟩ := path.exists_behindFirst closing rest
  rw [hcons] at h
  by_cases hempty : blanks.text = []
  · rw [hempty] at h
    obtain rfl : sign = c := Option.some.inj h
    exact .inr hsign
  · obtain ⟨d, more, hblanks, hd⟩ := blanks.exists_cons hempty
    rw [hblanks] at h
    obtain rfl : d = c := Option.some.inj h
    exact .inl hd

/-- No path starts like an alias: what follows its first name is no equals sign. -/
theorem aliasClause_written :
    aliasClause (maybeMarkedName '@') (path.written ++ (closing.text ++ ';' :: rest)) = none := by
  obtain ⟨blanks, c, tail, hcons, hsign⟩ := path.exists_behindFirst closing rest
  rw [written, List.append_assoc, hcons]
  rcases hsign with rfl | rfl
  · exact path.first.aliasClause_of_ne blanks (by decide) (by decide) (by decide) tail
  · exact path.first.aliasClause_of_ne blanks (by decide) (by decide) (by decide) tail

/-- The root qualifier does not open a path: two colons would have to follow its first name. -/
theorem qualifier_written :
    Dialect.standard.qualifier (path.written ++ (closing.text ++ ';' :: rest)) = none := by
  rw [Dialect.qualifier, Option.eq_none_iff_forall_ne_some]
  intro tail hafter
  have hglobal : path.first.text ++ (writtenMore path.more ++ (closing.text ++ ';' :: rest)) =
      "global".toList ++ ("::".toList ++ tail) := by
    rw [Text.after?_eq_some_iff, written, List.append_assoc] at hafter
    exact hafter
  rcases Name.eq_or_exists_of_append_eq (path.endsWord_behindFirst closing rest) (by decide) hglobal
    with ⟨-, htail⟩ | ⟨c, hc, more, htail⟩
  · have hcolon := path.head_behindFirst closing rest (c := ':') (by rw [htail]; rfl)
    revert hcolon
    decide
  · obtain rfl : ':' = c := (List.cons.inj htail).1
    rcases Name.eq_or_isWord_of_mem hc with h | h
    · exact absurd h (by decide)
    · exact absurd h (by decide)

/-! ### Where a path ends -/

theorem writtenMore_append_inj {a b : List (Blanks × Blanks × Name)} {closing closing' : Blanks}
    {rest rest' : List Char}
    (h : writtenMore a ++ (closing.text ++ ';' :: rest) =
      writtenMore b ++ (closing'.text ++ ';' :: rest')) :
    a = b ∧ closing = closing' ∧ rest = rest' := by
  induction a generalizing b with
  | nil =>
    cases b with
    | nil =>
      obtain ⟨hclosing, -, hrest⟩ := Blanks.append_cons_inj (by decide) (by decide) h
      exact ⟨rfl, hclosing, hrest⟩
    | cons part b =>
      obtain ⟨before, after, name⟩ := part
      rw [writtenMore_cons] at h
      obtain ⟨-, hsign, -⟩ := Blanks.append_cons_inj (by decide) (by decide) h
      exact absurd hsign (by decide)
  | cons part a ih =>
    obtain ⟨before, after, name⟩ := part
    rw [writtenMore_cons] at h
    cases b with
    | nil =>
      obtain ⟨-, hsign, -⟩ := Blanks.append_cons_inj (by decide) (by decide) h
      exact absurd hsign (by decide)
    | cons part' b =>
      obtain ⟨before', after', name'⟩ := part'
      rw [writtenMore_cons] at h
      obtain ⟨rfl, -, hbehind⟩ := Blanks.append_cons_inj (by decide) (by decide) h
      obtain ⟨rfl, hname⟩ :=
        Blanks.append_inj (name.isBlank_head _) (name'.isBlank_head _) hbehind
      have hend : EndsWord (writtenMore a ++ (closing.text ++ ';' :: rest)) :=
        endsWord_writtenMore a (endsWord_blanks closing (by decide) rest)
      have hend' : EndsWord (writtenMore b ++ (closing'.text ++ ';' :: rest')) :=
        endsWord_writtenMore b (endsWord_blanks closing' (by decide) rest')
      obtain ⟨rfl, hmore⟩ := Name.append_inj hend hend' hname
      obtain ⟨rfl, hclosing, hrest⟩ := ih hmore
      exact ⟨rfl, hclosing, hrest⟩

theorem append_inj {a b : SpacedPath} {closing closing' : Blanks} {rest rest' : List Char}
    (h : a.written ++ (closing.text ++ ';' :: rest) =
      b.written ++ (closing'.text ++ ';' :: rest')) :
    a = b ∧ closing = closing' ∧ rest = rest' := by
  obtain ⟨first, more⟩ := a
  obtain ⟨first', more'⟩ := b
  rw [written, written, List.append_assoc, List.append_assoc] at h
  obtain ⟨rfl, hmore⟩ := Name.append_inj (endsWord_behindFirst _ closing rest)
    (endsWord_behindFirst _ closing' rest') h
  obtain ⟨rfl, hclosing, hrest⟩ := writtenMore_append_inj hmore
  exact ⟨rfl, hclosing, hrest⟩

/-! ### The canonical form -/

theorem filter_name (name : Name) : (name.text.filter fun c => !isSpace c) = name.text :=
  List.filter_eq_self.2 fun c hc => by simp [Name.isSpace_of_mem hc]

theorem filter_blanks (blanks : Blanks) : (blanks.text.filter fun c => !isSpace c) = [] :=
  List.filter_eq_nil_iff.2 fun c hc => by simp [Blanks.isSpace_of_mem hc]

theorem filter_written : (path.written.filter fun c => !isSpace c) = path.dotted := by
  have hdot : isSpace '.' = false := by decide
  have hmore : ∀ more : List (Blanks × Blanks × Name),
      ((writtenMore more).filter fun c => !isSpace c) =
        more.flatMap fun (_, _, name) => '.' :: name.text := by
    intro more
    induction more with
    | nil => rfl
    | cons part more ih =>
      obtain ⟨before, after, name⟩ := part
      rw [writtenMore, List.flatMap_cons, List.flatMap_cons, List.filter_append, ← ih]
      simp [filter_blanks, filter_name, hdot, writtenMore]
  rw [written, List.filter_append, filter_name, hmore, dotted]

theorem colon_not_mem_dotted : ':' ∉ path.dotted := by
  have hname : ∀ name : Name, ':' ∉ name.text := by
    intro name h
    rcases Name.eq_or_isWord_of_mem h with h | h
    · exact absurd h (by decide)
    · exact absurd h (by decide)
  simp only [dotted, List.mem_append, List.mem_flatMap, List.mem_cons]
  rintro (h | ⟨⟨before, after, name⟩, -, h | h⟩)
  · exact hname _ h
  · exact absurd h (by decide)
  · exact hname _ h

end SpacedPath

end Vetting
