import MarkdownSections.Yaml.Fault

/-!
# Tokens of a YAML text

Besides the marks that stand in a text there are marks for what its indentation means: the start of
a block collection and its end. A `place` marks where a key would start if a colon follows; such
places are settled once the whole text is read.
-/

set_option autoImplicit false

namespace MarkdownSections.Yaml

/-- One token. -/
inductive Token where
  | version (major : Nat)
  | tagPrefix (handle expansion : String)
  | otherDirective
  | documentStart
  | documentEnd
  | blockSequenceStart
  | blockMappingStart
  | blockEnd
  | flowSequenceStart
  | flowSequenceEnd
  | flowMappingStart
  | flowMappingEnd
  | blockEntry
  | flowEntry
  | key
  | value
  | aliasOf (name : String)
  | anchor (name : String)
  | tag (handle : Option String) (suffix : String)
  /-- A scalar with the code points of its text, which an escape may make no characters. -/
  | scalar (points : List Nat) (plain : Bool)
  | place (number : Nat)
deriving DecidableEq, Repr

/-- The tokens that can be read in front of a fault, and that fault; without one they are all tokens
of the text. -/
structure Tokens where
  list : List Token
  fault : Option Fault := none
deriving DecidableEq, Repr

end MarkdownSections.Yaml
