import MarkdownSections.Json.Basic
import MarkdownSections.Yaml.Flow

/-!
# Frontmatter maps

The raw frontmatter is a YAML map; it is read as an ordered map of texts. Truth values are spelled
in lower case, absent values are empty, lists and maps are written as flow text, and every other
value is its plain text. Keys with one text are one key. What counts as absent makes an empty map.
-/

set_option autoImplicit false

namespace MarkdownSections.Frontmatter

/-- Why a frontmatter is not read. -/
inductive Fault where
  | malformed
  /-- It holds a value of another kind than a map. -/
  | notAMap (kind : String)
  /-- A scalar in it stands for no value. -/
  | scalar (fault : Yaml.ScalarFault)
  /-- It holds a whole number that is too long to be written. -/
  | unwritableNumber
  /-- Its nodes, or the values to be written, stand inside each other too deeply. -/
  | nestedTooDeeply
deriving DecidableEq, Repr

namespace Fault

/-- The fault of a text that is not read. -/
def ofYaml : Yaml.Fault → Fault
  | .malformed => malformed
  | .nestedTooDeeply => nestedTooDeeply
  | .scalar fault => scalar fault

/-- The wording of a fault. What a library says about it is left out. -/
def message : Fault → String
  | malformed => "Invalid YAML frontmatter:"
  | notAMap kind => "Invalid YAML frontmatter: expected a mapping, got " ++ kind
  | scalar fault => fault.message
  | unwritableNumber => Text.unwritableMessage
  | nestedTooDeeply => "the frontmatter is nested too deeply"

/-- Whether a fault counts as one of the document that holds the frontmatter. -/
def isOfDocument : Fault → Bool
  | scalar fault => fault.isOfText
  | nestedTooDeeply => false
  | _ => true

end Fault

/-- The plain text of a scalar. -/
def scalarText (s : Yaml.Scalar) : Except Fault String :=
  if s.isWritable then .ok s.plainText else .error .unwritableNumber

/-- The flow text of a collection. -/
def flowText (flow : Yaml.Flow) : Except Fault String :=
  if Yaml.Flow.maxHeight < flow.height then .error .nestedTooDeeply
  else if flow.isWritable then .ok flow.text
  else .error .unwritableNumber

/-- The text of a value. -/
def valueText (g : Yaml.Graph) (n : Nat) : Except Fault String :=
  match g.value n with
  | .scalar .null => .ok ""
  | .scalar (.bool b) => .ok (if b then "true" else "false")
  | .scalar s => scalarText s
  | .set [] => .ok "set()"
  | .set keys =>
    if keys.all (·.2.isWritable) then
      .ok ("\x7b" ++ ", ".intercalate (keys.map (·.2.literal)) ++ "\x7d")
    else .error .unwritableNumber
  | .list _ | .pairs _ | .map _ => flowText (.ofGraph g n)

/-- The map of a graph whose root is a map, after the entries already read. -/
def mapOfEntries (g : Yaml.Graph) (known : List (String × String)) :
    List ((Nat × Yaml.Scalar) × Nat) → Except Fault (List (String × String))
  | [] => .ok known
  | e :: es => do
    let key ← scalarText e.1.2
    mapOfEntries g (Json.insertEntry known key (← valueText g e.2)) es

/-- Reads a raw frontmatter. -/
def readMap (raw : List Char) : Except Fault (List (String × String)) :=
  if (Text.trim raw).isEmpty then .ok []
  else match Yaml.Graph.ofText? raw with
    | .error fault => .error (.ofYaml fault)
    | .ok none => .ok []
    | .ok (some g) =>
      match g.value Yaml.Graph.root with
      | .map entries => mapOfEntries g [] entries
      | value => if value.isBlankValue then .ok [] else .error (.notAMap value.kindName)

end MarkdownSections.Frontmatter
