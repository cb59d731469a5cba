import MarkdownSections.Json.Literal
import MarkdownSections.Json.Reader
import MarkdownSections.Json.Writer
import MarkdownSections.Payload.Bracket

/-!
# Payload codecs

Two ways to write list and table contents as text and to read them back. The lenient codec reads
bracketed payloads and never fails. The strict codec reads and writes data-file values: a text
that is none reads as absent, and of a list only the texts are items.
-/

set_option autoImplicit false

namespace MarkdownSections

/-- How payloads are read and written. -/
inductive Codec where
  | lenient
  | strict
deriving DecidableEq, Repr

/-- Why a payload is neither read nor taken as absent, or cannot be rendered. -/
inductive PayloadError where
  /-- The header or row list of a table is neither a collection nor a text. -/
  | notACollection
  /-- A numeral is too long to be read. -/
  | numeralTooLong (digits : Nat)
  /-- Collections stand inside each other too deeply. -/
  | nestedTooDeeply
  /-- A list is numbered beyond the numbers that are written. -/
  | unwritableNumber
deriving DecidableEq, Repr

/-- The wording of an error. -/
def PayloadError.message : PayloadError → String
  | notACollection => "the rows of a table are no collection"
  | numeralTooLong digits => Text.tooLongMessage digits
  | nestedTooDeeply => "collections are nested too deeply"
  | unwritableNumber => Text.unwritableMessage

namespace Codec

/-- What the strict codec admits. -/
def readRules : Json.ReadRules :=
  { maxNesting := 990, loneHalves := true, longFloats := true }

/-- The value of a strict payload; a malformed text is absent. -/
def strictValue (content : String) : Except PayloadError (Option Json) :=
  match Json.read readRules content.toList with
  | .ok v => .ok (some v)
  | .error .malformed => .ok none
  | .error .nestedTooDeeply => .error .nestedTooDeeply
  | .error (.numeralTooLong digits) => .error (.numeralTooLong digits)

/-- The texts of a list, other items left out. -/
def textItems : List Json → List String
  | [] => []
  | .text s :: vs => s :: textItems vs
  | .brokenText points :: vs => Json.plainText (.brokenText points) :: textItems vs
  | _ :: vs => textItems vs

/-- The members of a value that counts as a collection: the characters of a text, the keys of a
map; an empty or absent value has none. -/
def members (v : Json) : Except PayloadError (List Json) :=
  if v.isBlankValue then .ok []
  else match v with
    | .list items => .ok items
    | .text s => .ok (s.toList.map fun c => .text (String.singleton c))
    | .brokenText points => .ok (points.map fun n => .ofPoints [n])
    | .map entries => .ok (entries.map fun e => .text e.1)
    | .brokenMap entries => .ok (entries.map fun e => .ofPoints e.1)
    | _ => .error .notACollection

/-- The non-empty lists among values, their cells as plain texts. -/
def rowsOf : List Json → List (List String)
  | [] => []
  | .list (cell :: cells) :: vs => (cell :: cells).map Json.plainText :: rowsOf vs
  | _ :: vs => rowsOf vs

/-- Reads the items of a list; nothing when the content is no list. -/
def parseItems (codec : Codec) (content : String) : Except PayloadError (Option (List String)) :=
  match codec with
  | .lenient => .ok ((Bracket.readItems? content.toList).map (·.map String.ofList))
  | .strict => do
    match ← strictValue content with
    | some (.list items) => return some (textItems items)
    | _ => return none

/-- Writes a list of items. -/
def dumpItems (codec : Codec) (items : List String) : String :=
  match codec with
  | .lenient => String.ofList (Bracket.writeItems (items.map String.toList))
  | .strict => (Json.list (items.map Json.text)).toCompactString

/-- Reads the cells of a table; what is not found is empty. -/
def parseTable (codec : Codec) (content : String) : Except PayloadError TableData :=
  match codec with
  | .lenient =>
    let (headers, rows) := Bracket.readTable content.toList
    .ok ⟨headers.map String.ofList, rows.map (·.map String.ofList)⟩
  | .strict => do
    let v := (← strictValue content).getD .null
    let headers ← members ((v.field? "headers").getD .null)
    let rows ← members ((v.field? "rows").getD .null)
    return ⟨headers.map Json.plainText, rowsOf rows⟩

/-- Writes the cells of a table. -/
def dumpTable (codec : Codec) (table : TableData) : String :=
  match codec with
  | .lenient =>
    String.ofList
      (Bracket.writeTable (table.headers.map String.toList)
        (table.rows.map (·.map String.toList)))
  | .strict =>
    (Json.map
      [("headers", .list (table.headers.map Json.text)),
        ("rows", .list (table.rows.map fun row => .list (row.map Json.text)))]).toCompactString

end Codec

end MarkdownSections
