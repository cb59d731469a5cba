import MarkdownSections.Json.Basic
import MarkdownSections.Text.Literal

/-!
# Values as plain text

The text of a value where a text is wanted: a text stands for itself, other scalars are spelled
out, and the texts inside a collection are quoted.
-/

set_option autoImplicit false

namespace MarkdownSections.Json

/-- The spelling of a scalar; texts are quoted. -/
def scalarLiteral : Json → List Char
  | .null => "None".toList
  | .bool b => (if b then "True" else "False").toList
  | .int i => (Text.showInt i).toList
  | .float x => x.text.toList
  | .text s => Text.Literal.quoted s.toList
  | .brokenText points => Text.Literal.quotedPoints points
  | .list _ | .map _ | .brokenMap _ => []

mutual

/-- The spelling of a value; texts are quoted. -/
def literal : Json → List Char
  | .list [] => ['[', ']']
  | .list (v :: vs) => '[' :: literal v ++ literalItems vs
  | .map [] => ['{', '}']
  | .map ((k, v) :: es) =>
    '{' :: Text.Literal.quoted k.toList ++ ':' :: ' ' :: literal v ++ literalEntries es
  | .brokenMap [] => ['{', '}']
  | .brokenMap ((k, v) :: es) =>
    '{' :: Text.Literal.quotedPoints k ++ ':' :: ' ' :: literal v ++ literalPointEntries es
  | v => scalarLiteral v

/-- The further items of a list and its closing bracket. -/
def literalItems : List Json → List Char
  | [] => [']']
  | v :: vs => ',' :: ' ' :: literal v ++ literalItems vs

/-- The further entries of a map and its closing brace. -/
def literalEntries : List (String × Json) → List Char
  | [] => ['}']
  | (k, v) :: es =>
    ',' :: ' ' :: Text.Literal.quoted k.toList ++ ':' :: ' ' :: literal v ++ literalEntries es

/-- The further entries of a map with a broken key and its closing brace. -/
def literalPointEntries : List (List Nat × Json) → List Char
  | [] => ['}']
  | (k, v) :: es =>
    ',' :: ' ' :: Text.Literal.quotedPoints k ++ ':' :: ' ' :: literal v
      ++ literalPointEntries es

end

mutual

/-- Whether a value can be spelled: a whole number of too many digits is not, and neither is a
collection that holds one. -/
def isWritable : Json → Bool
  | .int i => Text.isWritable i
  | .list vs => areWritable vs
  | .map es => areWritableEntries es
  | .brokenMap es => areWritablePointEntries es
  | _ => true

/-- Whether the items of a list can be spelled. -/
def areWritable : List Json → Bool
  | [] => true
  | v :: vs => isWritable v && areWritable vs

/-- Whether the entries of a map can be spelled. -/
def areWritableEntries : List (String × Json) → Bool
  | [] => true
  | (_, v) :: es => isWritable v && areWritableEntries es

/-- Whether the entries of a map with a broken key can be spelled. -/
def areWritablePointEntries : List (List Nat × Json) → Bool
  | [] => true
  | (_, v) :: es => isWritable v && areWritablePointEntries es

end

/-- Whether a value is a text that holds a lone half of a surrogate pair. -/
def isBrokenText : Json → Bool
  | .brokenText _ => true
  | _ => false

/-- The plain text of a value. -/
def plainText : Json → String
  | .text s => s
  | .brokenText points => String.ofList (Text.charsOfPoints points)
  | v => String.ofList v.literal

end MarkdownSections.Json
