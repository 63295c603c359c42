import Vetting.Proofs.Header.Comment
import Vetting.Proofs.Header.Item

/-!
# Vetting.Proofs.Header.RoundTrip

A header that was written item by item is read back: the imports are those of its items, in order,
and what follows the line that ends the header adds none.

* `pathsFrom_item`: an item at the start of a text gives what it imports, and the rest of the text
  is read as if the item were not there.
* `importedNames_render`: so for a whole header, by induction on its items.
-/

namespace Vetting

namespace Header

open Text

/-- The namespaces that a text imports where a block comment is open before it, or none is. -/
def pathsFrom (isOpen : Open) (text : List Char) : List (List Char) :=
  (importsOf .standard isOpen (lines text)).map (·.path)

/-- The namespaces that some lines import. -/
def pathsOf (isOpen : Open) (raws : List (List Char)) : List (List Char) :=
  (importsOf .standard isOpen raws).map (·.path)

theorem importedNames_ofList (text : List Char) :
    importedNames .standard (String.ofList text) = (pathsFrom false text).map String.ofList := by
  rw [importedNames, String.toList_ofList]
  rfl

section Step

variable {isOpen isOpen' : Open} {raw line : List Char} {more : List (List Char)}

theorem pathsFrom_eq {text : List Char} (hlines : lines text = raw :: more) :
    pathsFrom isOpen text = pathsOf isOpen (raw :: more) := by
  rw [pathsFrom, hlines, pathsOf]

/-- A line of comments alone says whether a comment is open after it. -/
theorem pathsOf_comment (h : uncomment isOpen (trim raw) = (isOpen', none)) :
    pathsOf isOpen (raw :: more) = pathsOf isOpen' more := by
  rw [pathsOf, importsOf, h]
  rfl

theorem pathsOf_skipped (h : uncomment isOpen (trim raw) = (isOpen', some line))
    (hread : readLine .standard line = .skipped) :
    pathsOf isOpen (raw :: more) = pathsOf isOpen' more := by
  rw [pathsOf, importsOf, h]
  simp only [hread]
  rfl

theorem pathsOf_ended (h : uncomment isOpen (trim raw) = (isOpen', some line))
    (hread : readLine .standard line = .ended) : pathsOf isOpen (raw :: more) = [] := by
  rw [pathsOf, importsOf, h]
  simp only [hread]
  rfl

theorem pathsOf_imported (h : uncomment isOpen (trim raw) = (isOpen', some line))
    {path : List Char} {isPlain : Bool} (hread : readLine .standard line = .imported path isPlain) :
    pathsOf isOpen (raw :: more) = path :: pathsOf isOpen' more := by
  rw [pathsOf, importsOf, h]
  simp only [hread]
  rfl

end Step

theorem pathsFrom_blockComment (indent : Indent) {body : List Char} (h : ¬ ['*', '/'] <:+: body)
    (rest : List Char) :
    pathsFrom false (indent.text ++ '/' :: '*' :: (body ++ '*' :: '/' :: '\n' :: rest)) =
      pathsFrom false rest := by
  have hnewline : lines ('\n' :: rest) = [] :: lines rest := lines_append_newline oneLine_nil rest
  have htext : ¬ ['/', '*'] <+: trim (firstLine ('\n' :: rest)) := by
    rw [firstLine, hnewline]
    exact fun hprefix => absurd (List.prefix_nil.1 hprefix) (List.cons_ne_nil _ _)
  have hcomment : importsOf .standard false
      (lines (indent.text ++ '/' :: '*' :: (body ++ '*' :: '/' :: '\n' :: rest))) =
        importsOf .standard false (lines ('\n' :: rest)) :=
    importsOf_comment (fun _ hc => Indent.isSpace_of_mem hc) indent.oneLine h _ (.inr htext)
  rw [hnewline, importsOf_blank rfl] at hcomment
  rw [pathsFrom, hcomment, pathsFrom]

namespace Opening

variable (opening : Opening)

theorem oneLine : OneLine opening.word.toList := by
  rcases eq_of_mem_importKeywords opening.word_mem with h | h <;>
    (rw [h]; decide)

theorem isSpace_head (rest : List Char) :
    ∀ c ∈ (opening.word.toList ++ rest).head?, isSpace c = false := by
  rintro c hc
  rcases eq_of_mem_importKeywords opening.word_mem with h | h
  · rw [h] at hc
    obtain rfl := Option.some.inj hc
    decide
  · rw [h] at hc
    obtain rfl := Option.some.inj hc
    decide

/-- Trimming takes the indentation of an import and white space at the end of its line. -/
theorem trim_append (indent : Indent) (front : List Char) {c : Char} (hc : isSpace c = false)
    (back : List Char) :
    trim (indent.text ++ (opening.word.toList ++ (opening.gap.text ++ (front ++ c :: back)))) =
      opening.word.toList ++ (opening.gap.text ++ (front ++ c :: trimEnd back)) := by
  have htrim := trim_indented (fun d (hd : d ∈ indent.text) => Indent.isSpace_of_mem hd)
    (opening.isSpace_head (opening.gap.text ++ front)) hc back
  simpa only [List.append_assoc] using htrim

/-- What is left of the line of an import, up to a sign in it that is no white space. -/
theorem uncomment_trim (indent : Indent) (front : List Char) {c : Char} (hc : isSpace c = false)
    (back : List Char) :
    uncomment false (trim
        (indent.text ++ (opening.word.toList ++ (opening.gap.text ++ (front ++ c :: back))))) =
      (false,
        some (opening.word.toList ++ (opening.gap.text ++ (front ++ c :: trimEnd back)))) := by
  rw [opening.trim_append indent front hc]
  exact uncomment_keyword opening.word_mem _

theorem lines_append (indent : Indent) {text : List Char} (h : OneLine text) (rest : List Char) :
    lines (indent.text ++ (opening.word.toList ++ (opening.gap.text ++ text)) ++ '\n' :: rest) =
      (indent.text ++ (opening.word.toList ++ (opening.gap.text ++ text))) :: lines rest := by
  refine lines_append_newline ?_ rest
  simp [indent.oneLine, opening.oneLine, opening.gap.oneLine, h]

end Opening

theorem PlainImport.oneLine_rest (found : PlainImport) : OneLine found.rest := by
  have hslash : isLineBreak '/' = false := by decide
  unfold rest
  cases found.comment? with
  | none => simp [found.trailing.oneLine]
  | some comment => simp [found.trailing.oneLine, comment.oneLine, hslash]

theorem PlainImport.statement_append (found : PlainImport) (rest : List Char) :
    found.statement ++ rest =
      found.opening.word.toList ++ (found.opening.gap.text ++
        found.path.writtenPlain found.isQualified found.closing rest) := by
  simp [statement, DottedPath.writtenPlain]

theorem PlainImport.oneLine_statement (found : PlainImport) : OneLine found.statement := by
  have hwritten : OneLine (found.path.writtenPlain found.isQualified found.closing []) :=
    found.path.oneLine_writtenPlain found.closing [] oneLine_nil
  simp [statement, found.opening.oneLine, found.opening.gap.oneLine, hwritten]

/-- The line of a plain import gives its path, whatever stands on the line behind the semicolon. -/
theorem pathsFrom_statement (indent : Indent) (found : PlainImport) {trailing text : List Char}
    {more : List (List Char)} (hone : OneLine trailing)
    (hlines : lines text = (indent.text ++ (found.statement ++ trailing)) :: more) :
    pathsFrom false text = (Item.plainImport found).imported?.toList ++ pathsOf false more := by
  have hline : '\n' ∉ trimEnd trailing := fun hmem =>
    absurd (hone _ ((trimEnd_prefix_self _).subset hmem)) (by decide)
  have hraw := found.opening.uncomment_trim indent
    (DottedPath.qualifierText found.isQualified ++ (found.path.written ++ found.closing.text))
    (show isSpace ';' = false by decide) trailing
  simp only [List.append_assoc] at hraw
  rw [found.statement_append] at hlines
  by_cases hlike : found.IsStaticLike
  · have hread := readLine_staticLike found.opening.word_mem found.opening.gap_ne hlike.2
      (trimEnd trailing)
    rw [← hlike.1] at hread
    simp only [Item.imported?, if_pos hlike]
    exact (pathsFrom_eq hlines).trans (pathsOf_skipped hraw hread)
  · have hlike' : found.isQualified = true ∨ ¬ found.path.IsStaticLike found.closing := by
      cases hq : found.isQualified with
      | true => exact .inl rfl
      | false => exact .inr fun h => hlike ⟨hq, h⟩
    have hread := readLine_plain found.opening.word_mem found.opening.gap_ne found.path
      found.closing hline hlike'
    simp only [Item.imported?, if_neg hlike]
    exact (pathsFrom_eq hlines).trans (pathsOf_imported hraw hread)

theorem pathsFrom_plainImport (indent : Indent) (found : PlainImport) (rest : List Char) :
    pathsFrom false (indent.text ++ (Item.plainImport found).text ++ '\n' :: rest) =
      (Item.plainImport found).imported?.toList ++ pathsFrom false rest := by
  have htext : (Item.plainImport found).text = found.statement ++ found.rest :=
    (found.statement_append found.rest).symm
  have hone : OneLine (indent.text ++ (found.statement ++ found.rest)) := by
    simp [indent.oneLine, found.oneLine_statement, found.oneLine_rest]
  rw [htext]
  exact pathsFrom_statement indent found found.oneLine_rest (lines_append_newline hone rest)

/-- An import of a single name, with no more white space than it needs. -/
def PlainImport.ofName (name : Name) : PlainImport where
  opening := ⟨"using", ⟨[' '], by decide⟩, by decide, by decide⟩
  isQualified := false
  path := ⟨name, []⟩
  closing := ⟨[], by decide⟩
  trailing := ⟨[], by decide⟩
  comment? := none

theorem pathsFrom_ofName (name : Name) (rest : List Char) :
    pathsFrom false ("using ".toList ++ (name.text ++ ';' :: '\n' :: rest)) =
      name.text :: pathsFrom false rest := by
  have hlike : ¬ (PlainImport.ofName name).IsStaticLike := fun h => h.2.2 rfl
  have himported : (Item.plainImport (.ofName name)).imported? = some name.text := by
    rw [Item.imported?, if_neg hlike]
    simp [PlainImport.ofName, DottedPath.dotted]
  have htext : (Item.plainImport (.ofName name)).text =
      "using ".toList ++ (name.text ++ [';']) := by
    simp [Item.text, PlainImport.ofName, PlainImport.rest, DottedPath.writtenPlain,
      DottedPath.qualifierText, DottedPath.written, DottedPath.writtenMore]
  have hplain := pathsFrom_plainImport ⟨[], by decide⟩ (.ofName name) rest
  rw [himported, htext] at hplain
  simpa using hplain

theorem pathsFrom_staticImport (indent : Indent) (opening : Opening) {gap : Gap}
    (gap_ne : gap.text ≠ []) (line : LineText) (rest : List Char) :
    pathsFrom false
        (indent.text ++ (Item.staticImport opening gap gap_ne line).text ++ '\n' :: rest) =
      pathsFrom false rest := by
  have hone : OneLine ("static".toList ++ (gap.text ++ line.text)) :=
    oneLine_append.2 ⟨by decide, oneLine_append.2 ⟨gap.oneLine, line.oneLine⟩⟩
  have hraw := opening.uncomment_trim indent "stati".toList (show isSpace 'c' = false by decide)
    (gap.text ++ line.text)
  have htail : ∀ c ∈ (trimEnd (gap.text ++ line.text)).head?, isBlank c = true := by
    intro c hc
    obtain ⟨more, hmore⟩ := List.head?_eq_some_iff.1 hc
    obtain ⟨d, front, hgap, hd⟩ := Gap.exists_cons gap_ne
    obtain ⟨back, hback⟩ := trimEnd_prefix_self (gap.text ++ line.text)
    rw [hmore, hgap] at hback
    obtain rfl : c = d := (List.cons.inj hback).1
    exact hd
  exact (pathsFrom_eq (opening.lines_append indent hone rest)).trans
    (pathsOf_skipped hraw (readLine_static opening.word_mem opening.gap_ne htail))

theorem pathsFrom_aliasImport (indent : Indent) (opening : Opening) (name : Name) (gap : Gap)
    {line : LineText} (mem_line : ';' ∈ line.text) (rest : List Char) :
    pathsFrom false
        (indent.text ++ (Item.aliasImport opening name gap line mem_line).text ++ '\n' :: rest) =
      pathsFrom false rest := by
  have hequals : isLineBreak '=' = false := by decide
  have hone : OneLine (name.text ++ (gap.text ++ '=' :: line.text)) := by
    simp [name.oneLine, gap.oneLine, line.oneLine, hequals]
  obtain ⟨front, back, hline⟩ := List.append_of_mem mem_line
  have hraw := opening.uncomment_trim indent (name.text ++ (gap.text ++ '=' :: front))
    (show isSpace ';' = false by decide) back
  simp only [List.append_assoc, List.cons_append] at hraw
  rw [← hline] at hraw
  exact (pathsFrom_eq (opening.lines_append indent hone rest)).trans
    (pathsOf_skipped hraw (readLine_alias opening.word_mem opening.gap_ne name gap (by simp)))

theorem pathsFrom_passedOver {raw : List Char} (hone : OneLine raw)
    (hcomment : ¬ ['/', '*'] <+: trim raw) (hpassed : isPassedOver (trim raw) = true)
    (rest : List Char) : pathsFrom false (raw ++ '\n' :: rest) = pathsFrom false rest := by
  refine (pathsFrom_eq (lines_append_newline hone rest)).trans
    (pathsOf_skipped (uncomment_of_no_comment hcomment) ?_)
  rw [readLine, if_pos hpassed]

/-- An item at the start of a text gives what it imports, and the rest is read without it. -/
theorem pathsFrom_item (indent : Indent) (item : Item) (rest : List Char) :
    pathsFrom false (indent.text ++ item.text ++ '\n' :: rest) =
      item.imported?.toList ++ pathsFrom false rest := by
  have hindent : ∀ c ∈ indent.text, isSpace c = true := fun c hc => Indent.isSpace_of_mem hc
  cases item with
  | blank =>
    have htrim : trim (indent.text ++ Item.blank.text) = [] := by
      rw [Item.text, List.append_nil]
      exact trim_of_space hindent
    refine pathsFrom_passedOver ?_ (by simp [htrim]) (by rw [htrim]; rfl) rest
    simp [Item.text, indent.oneLine]
  | lineComment line =>
    have htrim : trim (indent.text ++ (Item.lineComment line).text) =
        '/' :: '/' :: trimEnd line.text := trim_signs hindent (by decide) (by decide) line.text
    have hslash : isLineBreak '/' = false := by decide
    refine pathsFrom_passedOver ?_ (by simp [htrim]) (by rw [htrim]; rfl) rest
    simp [Item.text, indent.oneLine, line.oneLine, hslash]
  | preprocessor line =>
    have htrim : trim (indent.text ++ (Item.preprocessor line).text) = '#' :: trimEnd line.text :=
      trim_indented hindent (show ∀ c ∈ [].head?, isSpace c = false by simp) (by decide) line.text
    have hsign : isLineBreak '#' = false := by decide
    refine pathsFrom_passedOver ?_ (by simp [htrim]) (by rw [htrim]; rfl) rest
    simp [Item.text, indent.oneLine, line.oneLine, hsign]
  | blockComment body no_end =>
    have hcomment := pathsFrom_blockComment indent no_end rest
    simp only [Item.text, List.append_assoc, List.cons_append, List.nil_append]
    exact hcomment
  | plainImport found => exact pathsFrom_plainImport indent found rest
  | staticImport opening gap gap_ne line =>
    exact pathsFrom_staticImport indent opening gap_ne line rest
  | aliasImport opening name gap line mem_line =>
    exact pathsFrom_aliasImport indent opening name gap mem_line rest

theorem pathsFrom_render (items : List (Indent × Item)) (rest : List Char) :
    pathsFrom false (render items ++ rest) =
      items.filterMap (·.2.imported?) ++ pathsFrom false rest := by
  induction items with
  | nil => rfl
  | cons head items ih =>
    obtain ⟨indent, item⟩ := head
    have hsplit : render ((indent, item) :: items) ++ rest =
        indent.text ++ item.text ++ '\n' :: (render items ++ rest) := by
      simp [render]
    rw [hsplit, pathsFrom_item, ih]
    cases himported : item.imported? with
    | none => simp [himported]
    | some path => simp [himported]

theorem afterKeyword?_eq_none {words : List String} {line : List Char}
    (h : ∀ word ∈ words, ∀ c rest, line = word.toList ++ c :: rest → isSpace c = false) :
    afterKeyword? words line = none := by
  induction words with
  | nil => rfl
  | cons word words ih =>
    have hmore := ih fun other hother => h other (List.mem_cons_of_mem word hother)
    rw [afterKeyword?]
    split
    · next c rest hafter =>
      have hc : isSpace c = false :=
        h word List.mem_cons_self c rest (after?_eq_some_iff.1 hafter)
      rw [hc]
      exact hmore
    · exact hmore

/-- A line that is no item ends the header, whatever follows it. -/
theorem pathsFrom_stop (stop : Stop) (further : List Char) :
    pathsFrom false (stop.line.text ++ '\n' :: further) = [] := by
  have hpassed : ¬ isPassedOver (trim stop.line.text) = true := by
    simp only [isPassedOver, Bool.or_eq_true, List.isEmpty_iff, startsWith_iff]
    rintro ((hnil | hcomment) | hsign)
    · exact stop.ne_nil hnil
    · exact stop.not_lineComment hcomment
    · exact stop.not_preprocessor hsign
  refine (pathsFrom_eq (lines_append_newline stop.line.oneLine further)).trans
    (pathsOf_ended (uncomment_of_no_comment stop.not_blockComment) ?_)
  rw [readLine, if_neg hpassed, afterKeyword?_eq_none stop.not_import]

theorem pathsFrom_renderEnd (stop? : Option (Stop × List Char)) :
    pathsFrom false (renderEnd stop?) = [] := by
  cases stop? with
  | none => rfl
  | some ending => exact pathsFrom_stop ending.1 ending.2

theorem namespaces_render (items : List (Indent × Item)) (stop? : Option (Stop × List Char)) :
    namespaces .standard (render items ++ renderEnd stop?) = items.filterMap (·.2.imported?) := by
  have hpaths := pathsFrom_render items (renderEnd stop?)
  rw [pathsFrom_renderEnd, List.append_nil] at hpaths
  exact hpaths

/-- The imports of a header that was written item by item are those of its items, in order. Only a
plain import in which `static` and white space follow the keyword is not among them: it is taken
for an import of members. -/
theorem importedNames_render (items : List (Indent × Item)) (stop? : Option (Stop × List Char)) :
    importedNames .standard (String.ofList (render items ++ renderEnd stop?)) =
      (items.filterMap (·.2.imported?)).map String.ofList := by
  rw [importedNames, String.toList_ofList, namespaces_render]

/-- The line `using static ;`, written as the plain import of a path `static`. -/
def PlainImport.ofStatic : PlainImport where
  opening := ⟨"using", ⟨[' '], by decide⟩, by decide, by decide⟩
  isQualified := false
  path := ⟨⟨false, 's', "tatic".toList, by decide, by decide⟩, []⟩
  closing := ⟨[' '], by decide⟩
  trailing := ⟨[], by decide⟩
  comment? := none

/-- Plain imports of every path are not all read back. -/
theorem importedNames_render_ofStatic :
    ¬ ∀ (items : List (Indent × Item)) (stop? : Option (Stop × List Char)),
      importedNames .standard (String.ofList (render items ++ renderEnd stop?)) =
        (items.filterMap (·.2.path?)).map String.ofList := by
  intro h
  have hstatic := h [(⟨[], by decide⟩, .plainImport .ofStatic)] none
  rw [importedNames, String.toList_ofList, namespaces_render] at hstatic
  exact absurd hstatic (by decide)

end Header

end Vetting
