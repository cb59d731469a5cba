import MarkdownSections.Number.Shortest
import MarkdownSections.Text.Utf8

/-!
# Loose values

A value as a data file spells it: whole numbers of any size, floating-point numbers, texts, lists
and maps in the order of their first keys. Element files, token attributes and settings hold such
values before they are checked.
-/

set_option autoImplicit false

namespace MarkdownSections

/-- A value of a data file. -/
inductive Json where
  | null
  | bool (value : Bool)
  | int (value : Int)
  | float (value : Binary64)
  | text (value : String)
  /-- A text that holds a lone half of a surrogate pair, by its code points. -/
  | brokenText (points : List Nat)
  | list (items : List Json)
  | map (entries : List (String × Json))
  /-- A map with a key that holds a lone half of a surrogate pair; all its keys by their code
  points. -/
  | brokenMap (entries : List (List Nat × Json))
deriving Repr, Inhabited

namespace Json

/-- Puts an entry into an ordered map: a known key keeps its place and takes the new value. -/
def insertEntry {κ β : Type} [BEq κ] (entries : List (κ × β)) (key : κ) (value : β) :
    List (κ × β) :=
  if entries.any (·.1 == key) then
    entries.map fun e => if e.1 == key then (key, value) else e
  else entries ++ [(key, value)]

/-- The text that code points make. -/
def ofPoints (points : List Nat) : Json :=
  if Text.areChars points then .text (String.ofList (Text.charsOfPoints points))
  else .brokenText points

/-- The map that entries make whose keys are code points. -/
def ofPointEntries (entries : List (List Nat × Json)) : Json :=
  if entries.all fun e => Text.areChars e.1 then
    .map (entries.map fun e => (String.ofList (Text.charsOfPoints e.1), e.2))
  else .brokenMap entries

/-- The value under a key of a map. -/
def field? (v : Json) (key : String) : Option Json :=
  match v with
  | .map entries => entries.lookup key
  | .brokenMap entries => entries.lookup (Text.pointsOfChars key.toList)
  | _ => none

/-- Whether a value counts as absent where absence is asked for: null, false, a zero and
everything empty. -/
def isBlankValue : Json → Bool
  | .null => true
  | .bool b => !b
  | .int i => i == 0
  | .float x => x.isZero
  | .text s => s.isEmpty
  | .brokenText _ => false
  | .list items => items.isEmpty
  | .map entries => entries.isEmpty
  | .brokenMap entries => entries.isEmpty

end Json

end MarkdownSections
