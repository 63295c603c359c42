import Vetting.Validator.Hint.Attribute
import Vetting.Validator.Hint.Item
import Vetting.Validator.Hint.Wording

/-!
# Vetting.Validator.Hint.Template

Texts in which fields in curly brackets stand for arguments. A field names an argument by its place
or its name, may go on to attributes and items of it, and may tell how the thing is written at first
and in which form; the form may have fields of its own. Fields without a name stand for the
arguments in their order, and do not go together with places.
-/

namespace Vetting

namespace HintValue

/-- What the fields of a template stand for. -/
structure TemplateSource where
  /-- What is given by its place; nothing where places are not known. -/
  placed? : Option (List HintValue)
  /-- What gives the value of a name. -/
  find : String → Except Fault HintValue

/-- How fields tell arguments by their place: whether by numbers, and which one comes next
otherwise. -/
structure FieldCount where
  isManual? : Option Bool := none
  next : Nat := 0
  deriving DecidableEq, Repr

/-- A field of a template. -/
structure TemplateField where
  name : List Char
  conversion? : Option Char := none
  form : List Char := []
  deriving DecidableEq, Repr

/-- The fault of a template that is not well made. -/
def templateFault (message : String) : Fault := .withText "ValueError" message

/-- The name of a field, the sign behind it, and what follows. What stands in square brackets
belongs to the name. -/
def fieldName : (isInItem : Bool) → List Char →
    Except Fault (List Char × Option Char × List Char)
  | _, [] => .ok ([], none, [])
  | isInItem, c :: rest => do
    if isInItem then
      let (name, sign?, rest) ← fieldName (c != ']') rest
      return (c :: name, sign?, rest)
    else if c = '\x7b' then throw (templateFault "unexpected '\x7b' in field name")
    else if c = '\x7d' ∨ c = ':' ∨ c = '!' then return ([], some c, rest)
    else
      let (name, sign?, rest) ← fieldName (c = '[') rest
      return (c :: name, sign?, rest)

/-- The form of a field up to the bracket that closes it, and what follows. -/
def fieldForm? (depth : Nat) : List Char → Option (List Char × List Char)
  | [] => none
  | c :: rest =>
    if c = '\x7d' ∧ depth = 0 then some ([], rest)
    else
      let depth := if c = '\x7b' then depth + 1 else if c = '\x7d' then depth - 1 else depth
      (fieldForm? depth rest).map fun (form, rest) => (c :: form, rest)

/-- A field with the form that stands behind its name. -/
def withForm (field : TemplateField) (cs : List Char) : Except Fault (TemplateField × List Char) :=
  match fieldForm? 0 cs with
  | some (form, rest) => .ok ({ field with form }, rest)
  | none => .error (templateFault "unmatched '\x7b' in format spec")

/-- The field that stands behind an opening bracket, and what follows it. -/
def readField (cs : List Char) : Except Fault (TemplateField × List Char) := do
  let (name, sign?, rest) ← fieldName false cs
  match sign?, rest with
  | some '\x7d', rest => return ({ name }, rest)
  | some ':', rest => withForm { name } rest
  | some _, [] =>
    throw (templateFault "end of string while looking for conversion specifier")
  | some _, [_] => throw (templateFault "unmatched '\x7b' in format spec")
  | some _, c :: d :: rest =>
    if d = '\x7d' then return ({ name, conversion? := some c }, rest)
    else if d = ':' then withForm { name, conversion? := some c } rest
    else throw (templateFault "expected ':' after conversion specifier")
  | none, _ => throw (templateFault "expected '\x7d' before end of string")

/-- The attributes and items of a thing that the rest of a field's name tells. The fuel bounds their
number. -/
def fieldParts (program : Program) : (fuel : Nat) → (path : List Char) → HintValue →
    Except Fault HintValue
  | 0, _, v => .ok v
  | _ + 1, [], v => .ok v
  | fuel + 1, '.' :: rest, v => do
    let isEnd (c : Char) : Bool := c == '.' || c == '['
    let name := rest.takeWhile fun c => !isEnd c
    if name.isEmpty then throw (templateFault "Empty attribute in format string")
    fieldParts program fuel (rest.dropWhile fun c => !isEnd c)
      (← read program v (String.ofList name))
  | fuel + 1, '[' :: rest, v => do
    let key := rest.takeWhile (· != ']')
    if key.length = rest.length then throw (templateFault "Missing ']' in format string")
    if key.isEmpty then throw (templateFault "Empty attribute in format string")
    let key : HintValue :=
      if key.all Char.isDigit then
        int (Int.ofNat (Numeral.ofDigits (key.map fun c => c.toNat - 48)))
      else text (String.ofList key)
    fieldParts program fuel (rest.drop (rest.takeWhile (· != ']')).length |>.drop 1)
      (← item program v key)
  | _ + 1, _ :: _, _ =>
    .error (templateFault "Only '.' or '[' may follow ']' in format field specifier")

/-- The argument that a field stands for, and how fields tell arguments from there on. -/
def fieldValue (program : Program) (source : TemplateSource) (count : FieldCount)
    (name : List Char) : Except Fault (HintValue × FieldCount) := do
  let isEnd (c : Char) : Bool := c == '.' || c == '['
  let first := name.takeWhile fun c => !isEnd c
  let path := name.dropWhile fun c => !isEnd c
  let place? : Option Nat :=
    if first.isEmpty then some count.next
    else if first.all Char.isDigit then
      some (Numeral.ofDigits (first.map fun c => c.toNat - 48))
    else none
  let count ←
    match place?, count.isManual? with
    | none, _ => pure count
    | some _, some true =>
      if first.isEmpty then
        throw (templateFault
          "cannot switch from manual field specification to automatic field numbering")
      else pure count
    | some _, some false =>
      if first.isEmpty then pure { count with next := count.next + 1 }
      else
        throw (templateFault
          "cannot switch from automatic field numbering to manual field specification")
    | some _, none =>
      pure (if first.isEmpty then { isManual? := some false, next := count.next + 1 }
        else { count with isManual? := some true })
  let v ←
    match place?, source.placed? with
    | none, _ => source.find (String.ofList first)
    | some _, none => throw (templateFault "Format string contains positional fields")
    | some n, some placed =>
      match placed[n]? with
      | some v => pure v
      | none =>
        throw (.withText "IndexError" ("Replacement index " ++ toString n ++
          " out of range for positional args tuple"))
  return (← fieldParts program (path.length + 1) path v, count)

/-- A template whose fields are filled, and how fields told arguments. `depth` bounds how deep
fields lie in one another, and the fuel the number of characters. -/
def fillTemplate (program : Program) (source : TemplateSource) : (depth fuel : Nat) →
    FieldCount → List Char → Except Fault (List Char × FieldCount)
  | 0, _, _, _ => .error (templateFault "Max string recursion exceeded")
  | _, 0, count, _ => .ok ([], count)
  | _, _ + 1, count, [] => .ok ([], count)
  | depth + 1, fuel + 1, count, c :: rest => do
    let isBrace := c = '\x7b' ∨ c = '\x7d'
    if isBrace ∧ rest.head? = some c then
      let (s, count) ← fillTemplate program source (depth + 1) fuel count (rest.drop 1)
      return (c :: s, count)
    else if c = '\x7d' then
      throw (templateFault "Single '\x7d' encountered in format string")
    else if c = '\x7b' then
      if rest.isEmpty then throw (templateFault "Single '\x7b' encountered in format string")
      let (field, rest) ← readField rest
      let (v, count) ← fieldValue program source count field.name
      let v ←
        match field.conversion? with
        | some d =>
          if d = 'r' ∨ d = 's' ∨ d = 'a' then converted program (some d) v
          else
            throw (templateFault ("Unknown conversion specifier " ++
              (if 32 < d.toNat ∧ d.toNat < 127 then d.toString
                else "\\x" ++ String.ofList (Nat.toDigits 16 d.toNat))))
        | none => pure v
      let (form, count) ←
        if field.form.contains '\x7b' then fillTemplate program source depth fuel count field.form
        else pure (field.form, count)
      let here ← formed program v (String.ofList form)
      let (s, count) ← fillTemplate program source (depth + 1) fuel count rest
      return (here.toList ++ s, count)
    else
      let (s, count) ← fillTemplate program source (depth + 1) fuel count rest
      return (c :: s, count)

/-- A template filled. -/
def ofTemplate (program : Program) (source : TemplateSource) (s : String) :
    Except Fault HintValue :=
  let cs := s.toList
  (fillTemplate program source 2 (cs.length + 1) {} cs).map fun (found, _) =>
    text (String.ofList found)

end HintValue

end Vetting
