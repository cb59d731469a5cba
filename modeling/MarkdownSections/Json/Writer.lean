import MarkdownSections.Json.Basic

/-!
# Writing data files

Texts keep every character but quotes, backslashes and controls. The compact form puts one blank
after commas and colons; the indented form puts every item on a line of its own, two blanks deeper
than its collection. Whole numbers and floating-point numbers are written as their plain texts.
-/

set_option autoImplicit false

namespace MarkdownSections.Json

/-- Numbers in plain style, with the literals of the format for what is not finite. -/
def numberStyle : Binary64.DecimalStyle :=
  { Binary64.plainStyle with infinity := "Infinity", notANumber := "NaN" }

/-- One character inside a quoted text. -/
def escapeChar (c : Char) : List Char :=
  match c with
  | '"' => ['\\', '"']
  | '\\' => ['\\', '\\']
  | '\n' => ['\\', 'n']
  | '\r' => ['\\', 'r']
  | '\t' => ['\\', 't']
  | '\x08' => ['\\', 'b']
  | '\x0c' => ['\\', 'f']
  | c => if c.toNat < 0x20 then '\\' :: 'u' :: Text.hexDigits 4 c.toNat else [c]

/-- A text between double quotes. -/
def quote (cs : List Char) : List Char :=
  '"' :: cs.flatMap escapeChar ++ ['"']

/-- Code points between double quotes; a half of a surrogate pair becomes a replacement
character. -/
def quotePoints (points : List Nat) : List Char :=
  quote (Text.charsOfPoints points)

/-- The text of a value that is no collection. -/
def scalarText : Json → List Char
  | .null => "null".toList
  | .bool b => (if b then "true" else "false").toList
  | .int i => (Text.showInt i).toList
  | .float x => (x.toText numberStyle).toList
  | .text s => quote s.toList
  | .brokenText points => quotePoints points
  | .list _ | .map _ | .brokenMap _ => []

mutual

/-- A value on one line. -/
def compact : Json → List Char
  | .list [] => ['[', ']']
  | .list (v :: vs) => '[' :: compact v ++ compactItems vs
  | .map [] => ['{', '}']
  | .map ((k, v) :: es) => '{' :: quote k.toList ++ ':' :: ' ' :: compact v ++ compactEntries es
  | .brokenMap [] => ['{', '}']
  | .brokenMap ((k, v) :: es) =>
    '{' :: quotePoints k ++ ':' :: ' ' :: compact v ++ compactPointEntries es
  | v => scalarText v

/-- The further items of a list and its closing bracket. -/
def compactItems : List Json → List Char
  | [] => [']']
  | v :: vs => ',' :: ' ' :: compact v ++ compactItems vs

/-- The further entries of a map and its closing brace. -/
def compactEntries : List (String × Json) → List Char
  | [] => ['}']
  | (k, v) :: es => ',' :: ' ' :: quote k.toList ++ ':' :: ' ' :: compact v ++ compactEntries es

/-- The further entries of a map with a broken key and its closing brace. -/
def compactPointEntries : List (List Nat × Json) → List Char
  | [] => ['}']
  | (k, v) :: es =>
    ',' :: ' ' :: quotePoints k ++ ':' :: ' ' :: compact v ++ compactPointEntries es

end

/-- A line feed and the blanks of a depth. -/
def newLine (depth : Nat) : List Char :=
  '\n' :: List.replicate (2 * depth) ' '

mutual

/-- A value whose collections are spread over lines; the value itself stands at `depth`. -/
def indented (depth : Nat) : Json → List Char
  | .list [] => ['[', ']']
  | .list (v :: vs) =>
    '[' :: newLine (depth + 1) ++ indented (depth + 1) v ++ indentedItems depth vs
  | .map [] => ['{', '}']
  | .map ((k, v) :: es) =>
    '{' :: newLine (depth + 1) ++ quote k.toList ++ ':' :: ' ' :: indented (depth + 1) v
      ++ indentedEntries depth es
  | .brokenMap [] => ['{', '}']
  | .brokenMap ((k, v) :: es) =>
    '{' :: newLine (depth + 1) ++ quotePoints k ++ ':' :: ' ' :: indented (depth + 1) v
      ++ indentedPointEntries depth es
  | v => scalarText v

/-- The further items of a list at `depth` and its closing bracket. -/
def indentedItems (depth : Nat) : List Json → List Char
  | [] => newLine depth ++ [']']
  | v :: vs => ',' :: newLine (depth + 1) ++ indented (depth + 1) v ++ indentedItems depth vs

/-- The further entries of a map at `depth` and its closing brace. -/
def indentedEntries (depth : Nat) : List (String × Json) → List Char
  | [] => newLine depth ++ ['}']
  | (k, v) :: es =>
    ',' :: newLine (depth + 1) ++ quote k.toList ++ ':' :: ' ' :: indented (depth + 1) v
      ++ indentedEntries depth es

/-- The further entries of a map with a broken key at `depth` and its closing brace. -/
def indentedPointEntries (depth : Nat) : List (List Nat × Json) → List Char
  | [] => newLine depth ++ ['}']
  | (k, v) :: es =>
    ',' :: newLine (depth + 1) ++ quotePoints k ++ ':' :: ' ' :: indented (depth + 1) v
      ++ indentedPointEntries depth es

end

/-- A value on one line, as a string. -/
def toCompactString (v : Json) : String :=
  String.ofList v.compact

/-- A value spread over lines, as a string. -/
def toIndentedString (v : Json) : String :=
  String.ofList (v.indented 0)

end MarkdownSections.Json
