import Vetting.Proofs.Directive.Line

/-!
# Vetting.Proofs.Header.Item

What a header is made of, as it is written in the standard dialect: blank lines, comments,
preprocessor lines and imports of three kinds. `Header.Item.text` writes an item, and
`Header.Item.imported?` is the namespace that it brings into scope. `Header.render` writes a header
item by item, and `Header.Stop` is a line that ends it.
-/

namespace Vetting

/-- White space before a line. -/
abbrev Indent := TextOf fun c => isSpace c && !isLineBreak c

/-- A text that stays on its line. -/
abbrev LineText := TextOf fun c => !isLineBreak c

theorem Indent.isSpace_of_mem {indent : Indent} {c : Char} (h : c ∈ indent.text) :
    isSpace c = true :=
  (Bool.and_eq_true_iff.1 (indent.of_mem h)).1

theorem Indent.oneLine (indent : Indent) : Text.OneLine indent.text := by
  intro c h
  have hc := (Bool.and_eq_true_iff.1 (indent.of_mem h)).2
  simpa using hc

theorem LineText.oneLine (line : LineText) : Text.OneLine line.text :=
  fun c h => by simpa using line.of_mem h

namespace Header

open Text

/-- A keyword and the white space behind it. -/
structure Opening where
  word : String
  gap : Gap
  word_mem : word ∈ Dialect.standard.importKeywords
  gap_ne : gap.text ≠ []

/-- A plain import; a comment may follow it on its line. -/
structure PlainImport where
  opening : Opening
  isQualified : Bool
  path : DottedPath
  closing : Gap
  trailing : Gap
  comment? : Option LineText

/-- An item of a header. The end of a block comment does not stand inside it, and an alias has a
semicolon. -/
inductive Item where
  | blank
  | lineComment (text : LineText)
  | preprocessor (text : LineText)
  | blockComment (body : List Char) (no_end : ¬ ['*', '/'] <:+: body)
  | plainImport (found : PlainImport)
  | staticImport (opening : Opening) (gap : Gap) (gap_ne : gap.text ≠ []) (rest : LineText)
  | aliasImport (opening : Opening) (name : Name) (gap : Gap) (rest : LineText)
      (mem_rest : ';' ∈ rest.text)

/-- A plain import as it is written, up to its semicolon. -/
def PlainImport.statement (found : PlainImport) : List Char :=
  found.opening.word.toList ++ (found.opening.gap.text ++
    found.path.writtenPlain found.isQualified found.closing [])

/-- What follows the semicolon of a plain import. -/
def PlainImport.rest (found : PlainImport) : List Char :=
  found.trailing.text ++
    match found.comment? with
    | none => []
    | some comment => '/' :: '/' :: comment.text

/-- An import is taken for one of members where `static` and white space follow its keyword. -/
def PlainImport.IsStaticLike (found : PlainImport) : Prop :=
  found.isQualified = false ∧ found.path.IsStaticLike found.closing

instance (found : PlainImport) : Decidable found.IsStaticLike :=
  inferInstanceAs (Decidable (_ = _ ∧ _ = _ ∧ ¬ _ = _))

namespace Item

/-- An item as it is written, without its indentation and the line feed that ends it. -/
def text : Item → List Char
  | blank => []
  | lineComment text => '/' :: '/' :: text.text
  | preprocessor text => '#' :: text.text
  | blockComment body _ => '/' :: '*' :: (body ++ ['*', '/'])
  | plainImport found =>
    found.opening.word.toList ++ (found.opening.gap.text ++
      found.path.writtenPlain found.isQualified found.closing found.rest)
  | staticImport opening gap _ rest =>
    opening.word.toList ++ (opening.gap.text ++ ("static".toList ++ (gap.text ++ rest.text)))
  | aliasImport opening name gap rest _ =>
    opening.word.toList ++ (opening.gap.text ++ (name.text ++ (gap.text ++ '=' :: rest.text)))

/-- The names of a plain import, joined by dots. -/
def path? : Item → Option (List Char)
  | plainImport found => some found.path.dotted
  | _ => none

/-- The namespace that an item brings into scope. -/
def imported? : Item → Option (List Char)
  | plainImport found => if found.IsStaticLike then none else some found.path.dotted
  | _ => none

end Item

/-- Some items, each with its indentation, and each ended by a line feed. -/
def render (items : List (Indent × Item)) : List Char :=
  items.flatMap fun (indent, item) => indent.text ++ (item.text ++ ['\n'])

/-- A line that ends the header, once trimmed: it is no item and does not open like one. -/
structure Stop where
  line : LineText
  ne_nil : trim line.text ≠ []
  not_lineComment : ¬ ['/', '/'] <+: trim line.text
  not_preprocessor : ¬ ['#'] <+: trim line.text
  not_blockComment : ¬ ['/', '*'] <+: trim line.text
  not_import : ∀ word ∈ Dialect.standard.importKeywords, ∀ c rest,
    trim line.text = word.toList ++ c :: rest → isSpace c = false

/-- What may follow the items of a header: a line that ends it, and any text. -/
def renderEnd : Option (Stop × List Char) → List Char
  | none => []
  | some (stop, further) => stop.line.text ++ '\n' :: further

end Header

end Vetting
