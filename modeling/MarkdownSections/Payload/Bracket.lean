import MarkdownSections.Text.Blank

/-!
# Bracketed payloads

The cells of a table are plain texts: one header row, which may be missing, and the data rows.

The compact form of list and table contents: a list is `["a", "b"]`, a table names its header
list and its list of row lists. Inside quotes a backslash escapes quotes, backslashes, line feeds,
carriage returns and tabs.

Reading is lenient and always succeeds: text outside quotes is ignored, a missing closing bracket
ends the list at the end of the text, and an unended quoted text is dropped. A backslash escapes
the next character outside quotes too, and that character then stands in front of the next quoted
text.
-/

set_option autoImplicit false

namespace MarkdownSections

/-! ## Cells of a table -/

/-- The cells of a table. -/
structure TableData where
  headers : List String := []
  rows : List (List String) := []
deriving DecidableEq, Repr

namespace TableData

/-- The width of a table: that of its header row, else of its first row. -/
def columnCount (t : TableData) : Nat :=
  if t.headers.isEmpty then (t.rows.head?.map List.length).getD 0 else t.headers.length

/-- Whether a table has neither headers nor rows. -/
def isEmpty (t : TableData) : Bool :=
  t.headers.isEmpty && t.rows.isEmpty

end TableData

namespace Bracket

/-! ## Writing -/

/-- One character inside quotes. -/
def escapeChar (c : Char) : List Char :=
  if c = '\\' then ['\\', '\\']
  else if c = '"' then ['\\', '"']
  else if c = '\n' then ['\\', 'n']
  else if c = '\r' then ['\\', 'r']
  else if c = '\t' then ['\\', 't']
  else [c]

/-- A text between double quotes. -/
def quote (cs : List Char) : List Char :=
  '"' :: cs.flatMap escapeChar ++ ['"']

/-- Texts joined by a separator. -/
def joinWith (separator : List Char) (texts : List (List Char)) : List Char :=
  separator.intercalate texts

/-- A list of texts. -/
def writeItems (items : List (List Char)) : List Char :=
  '[' :: joinWith [',', ' '] (items.map quote) ++ [']']

/-- A table. -/
def writeTable (headers : List (List Char)) (rows : List (List (List Char))) : List Char :=
  '{' :: quote "headers".toList ++ ':' :: ' ' :: writeItems headers ++ ',' :: ' ' ::
    quote "rows".toList ++ ':' :: ' ' :: '[' :: joinWith [',', ' '] (rows.map writeItems)
    ++ [']', '}']

/-! ## Reading -/

/-- The character that an escape stands for. -/
def unescape (c : Char) : Char :=
  if c = 'n' then '\n' else if c = 't' then '\t' else if c = 'r' then '\r' else c

/-- Helper of `quotedTexts`: the open text so far, last character first, whether it stands inside
quotes, and whether a backslash came just before. -/
def quotedTextsFrom (current : List Char) (inside escaped : Bool) :
    List Char → List (List Char)
  | [] => []
  | c :: cs =>
    if escaped then quotedTextsFrom (unescape c :: current) inside false cs
    else if c = '\\' then quotedTextsFrom current inside true cs
    else if c = '"' then
      if inside then current.reverse :: quotedTextsFrom [] false false cs
      else quotedTextsFrom current true false cs
    else if inside then quotedTextsFrom (c :: current) inside false cs
    else quotedTextsFrom current inside false cs

/-- The quoted texts of a span, unescaped. -/
def quotedTexts (span : List Char) : List (List Char) :=
  quotedTextsFrom [] false false span

/-- Splits a text at the bracket that closes `depth` open ones, quoted text skipped: what stands
in front of that bracket and what follows it. -/
def splitAtClose (depth : Nat) (inside escaped : Bool) :
    List Char → Option (List Char × List Char)
  | [] => none
  | c :: cs =>
    let continued (depth : Nat) (inside escaped : Bool) :=
      (splitAtClose depth inside escaped cs).map fun (front, rest) => (c :: front, rest)
    if escaped then continued depth inside false
    else if c = '\\' then continued depth inside true
    else if c = '"' then continued depth (!inside) false
    else if inside then continued depth inside false
    else if c = '[' then continued (depth + 1) inside false
    else if c = ']' then
      if depth ≤ 1 then some ([], cs) else continued (depth - 1) inside false
    else continued depth inside false

/-- What stands behind an opening bracket and in front of the bracket that closes it; without
one, everything. -/
def bracketBody (cs : List Char) : List Char :=
  match splitAtClose 1 false false cs with
  | some (front, _) => front
  | none => cs

/-- The items of a list, or nothing when the text does not start with a bracket. -/
def readItems? (content : List Char) : Option (List (List Char)) :=
  match Text.trim content with
  | '[' :: cs => some (quotedTexts (bracketBody cs))
  | _ => none

/-- What follows a quoted key and its colon, if the text starts with them. -/
def afterKeyHere? (key cs : List Char) : Option (List Char) :=
  let quotedKey := '"' :: key ++ ['"']
  if quotedKey.isPrefixOf cs then
    match Text.trimStart (cs.drop quotedKey.length) with
    | ':' :: rest => some rest
    | _ => none
  else none

/-- What follows the first place where a quoted key and its colon stand. -/
def afterKey? (key : List Char) : List Char → Option (List Char)
  | [] => none
  | c :: cs =>
    match afterKeyHere? key (c :: cs) with
    | some rest => some rest
    | none => afterKey? key cs

/-- What follows the first opening bracket behind a key. -/
def arrayAfter? (key content : List Char) : Option (List Char) := do
  let rest ← afterKey? key content
  match rest.dropWhile (· != '[') with
  | [] => none
  | _ :: body => some body

/-- The non-empty rows among the next `room` characters of a text. A row starts at the next
opening bracket and has to close before the room ends; the search goes on behind it. -/
def readRows : Nat → List Char → Nat → List (List (List Char))
  | 0, _, _ => []
  | fuel + 1, cs, room =>
    let skipped := (cs.take room).takeWhile (· != '[')
    if room ≤ skipped.length then []
    else
      let body := cs.drop (skipped.length + 1)
      let left := room - skipped.length - 1
      match splitAtClose 1 false false body with
      | none => []
      | some (front, rest) =>
        if left < front.length then []
        else
          let rows := readRows fuel rest (left - front.length - 1)
          match quotedTexts front with
          | [] => rows
          | row => row :: rows

/-- The header cells of a table. -/
def readHeaders (content : List Char) : List (List Char) :=
  match arrayAfter? "headers".toList content with
  | some body => quotedTexts (bracketBody body)
  | none => []

/-- The header cells and the rows of a table; what is not found is empty. -/
def readTable (content : List Char) : List (List Char) × List (List (List Char)) :=
  let rows := match arrayAfter? "rows".toList content with
    | some body => readRows (body.length + 1) body (bracketBody body).length
    | none => []
  (readHeaders content, rows)

end Bracket

end MarkdownSections
