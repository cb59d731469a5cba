import MarkdownSections.Element.Basic
import MarkdownSections.Json.Literal
import MarkdownSections.Json.Reader
import MarkdownSections.Schema.Record
import MarkdownSections.Text.LetterCase

/-!
# Reading elements

An element file holds a list of records. Every record is checked field by field, and all issues
are reported together. A null content is empty, a null encoding is plain text, and attributes may
be a map, a list of pairs or a list of records with a key and a value; a repeated key keeps its
first place and its last value, and all keys and values become plain texts.

Attributes that cannot be walked through at all are a fault, which ends the reading at once.
-/

set_option autoImplicit false

namespace MarkdownSections

/-- Why no elements are read. -/
inductive ElementError where
  /-- Values that are refused, in the order of the fields. -/
  | refused (issues : List Issue)
  /-- Attributes, or one of their entries, that are neither a collection nor a text. -/
  | attributesNotWalkable
  /-- An attribute record without a key or a value. -/
  | attributeFieldMissing
deriving DecidableEq, Repr

namespace Element

/-- What reading one attribute entry gives. -/
inductive EntryReading where
  | entry (key value : String)
  | refused
  | notWalkable
  | fieldMissing

/-- The plain text of an attribute value; null is empty. -/
def attributeText : Json → String
  | .null => ""
  | v => v.plainText

/-- Reads one entry of an attribute list: a record with a key and a value, or a collection of
exactly two. -/
def readEntry (v : Json) : EntryReading :=
  match v with
  | .map entries =>
    match entries.lookup "key", entries.lookup "value" with
    | some key, some value => .entry key.plainText (attributeText value)
    | _, _ => .fieldMissing
  | .list [key, value] => .entry key.plainText (attributeText value)
  | .list _ => .refused
  | .text s =>
    match s.toList with
    | [key, value] => .entry (String.singleton key) (String.singleton value)
    | _ => .refused
  | _ => .notWalkable

/-- Reads the entries of an attribute list into an ordered map. -/
def readEntries (known : List (String × String)) :
    List Json → Except ElementError (Checked (List (String × String)))
  | [] => .ok (.ok known)
  | v :: vs =>
    match readEntry v with
    | .entry key value => readEntries (Json.insertEntry known key value) vs
    | .refused => .ok (.error .unsound)
    | .notWalkable => .error .attributesNotWalkable
    | .fieldMissing => .error .attributeFieldMissing

/-- Reads attributes. -/
def readAttributes (v : Json) : Except ElementError (Checked (List (String × String))) :=
  match v with
  | .null => .ok (.ok [])
  | .map entries => .ok (.ok (entries.map fun e => (e.1, attributeText e.2)))
  | .list items => readEntries [] items
  | .text s => readEntries [] (s.toList.map fun c => .text (String.singleton c))
  | _ => .error .attributesNotWalkable

/-- The kind that a text names. -/
def kindOfName? (s : String) : Option ElementKind :=
  if s = "block" then some .block else if s = "inline" then some .inline else none

/-- Reads a kind; null leaves it open. -/
def readKind (v : Json) : Checked (Option ElementKind) :=
  match v with
  | .null => .ok none
  | .text s => ((kindOfName? s).map fun k => .ok (some k)).getD (.error .notInEnumeration)
  | _ => .error .notInEnumeration

/-- The encoding that a text names; the aliases may be written in any case. -/
def encodingOfName? (s : String) : Option Encoding :=
  if s = "text" then some .text
  else if s = "json" then some .structured
  else if s = "yaml" then some .yaml
  else
    let spelling := Text.lowerString s
    if spelling = "structured" then some .structured
    else if spelling = "yamllike" || spelling = "yaml_like" then some .yaml
    else none

/-- Reads an encoding; null is plain text. -/
def readEncoding (v : Json) : Checked Encoding :=
  match v with
  | .null => .ok .text
  | .text s => ((encodingOfName? s).map .ok).getD (.error .notInEnumeration)
  | _ => .error .notInEnumeration

/-- Reads a content; null is empty. -/
def readContent (v : Json) : Checked String :=
  match v with
  | .null => .ok ""
  | v => v.toLoose.toText

/-- Reads the attributes of a record. -/
def readAttributeField (entries : List (String × Json)) :
    Except ElementError (Checked (List (String × String))) :=
  match entries.lookup "attributes" with
  | none => .ok (.ok [])
  | some v => readAttributes v

/-- Reads one record; a fault ends the reading, issues are collected. -/
def ofRecord (entries : List (String × Json)) :
    Except ElementError (Except (List Issue) Element) := do
  let kind := Checked.optional entries "kind" none readKind
  let elementType := Checked.required entries "element_type" fun v => v.toLoose.toText
  let content := Checked.optional entries "content" "" readContent
  let level := Checked.optional entries "level" none fun v => v.toLoose.toOptionalInt
  let encoding := Checked.optional entries "encoding" .text readEncoding
  let attributes ← readAttributeField entries
  let order := Checked.optional entries "order" 0 fun v => v.toLoose.toInt
  return match kind, elementType, content, level, encoding, attributes, order with
    | .ok kind, .ok elementType, .ok content, .ok level, .ok encoding, .ok attributes, .ok order =>
      .ok { kind, elementType, content, level, encoding, attributes, order }
    | _, _, _, _, _, _, _ =>
      .error (kind.issues "kind" ++ elementType.issues "element_type"
        ++ content.issues "content" ++ level.issues "level" ++ encoding.issues "encoding"
        ++ attributes.issues "attributes" ++ order.issues "order")

/-- Reads one value as an element. -/
def ofJson (v : Json) : Except ElementError (Except (List Issue) Element) :=
  match v with
  | .map entries => ofRecord entries
  | _ => .ok (.error [⟨[], .notARecord⟩])

/-- Reads the values of a list from a position on: the elements, and the issues of all values. -/
def ofJsonItems (position : Nat) : List Json → Except ElementError (List Element × List Issue)
  | [] => .ok ([], [])
  | v :: vs => do
    let reading ← ofJson v
    let (es, issues) ← ofJsonItems (position + 1) vs
    return match reading with
      | .ok e => (e :: es, issues)
      | .error found => (es, found.map (Issue.within (.index position)) ++ issues)

/-- Reads a list of elements. -/
def listOfJson (v : Json) : Except ElementError (List Element) :=
  match v with
  | .list items => do
    let (es, issues) ← ofJsonItems 0 items
    if issues.isEmpty then return es else throw (.refused issues)
  | _ => .error (.refused [⟨[], .notAList⟩])

/-- An element file is read strictly. -/
def readRules : Json.ReadRules :=
  { maxNesting := 200, loneHalves := false, longFloats := false }

/-- Reads the text of an element file. -/
def listOfText (cs : List Char) : Except ElementError (List Element) :=
  match Json.read readRules cs with
  | .ok v => listOfJson v
  | .error _ => .error (.refused [⟨[], .malformedFile⟩])

end Element

end MarkdownSections
