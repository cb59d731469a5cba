import MarkdownSections.Frontmatter.Map
import MarkdownSections.Schema.Issue

/-!
# What can go wrong with a document

Structural faults stop the work on one document and carry its name. The other errors come from what
is asked of a document, or from nodes that lack what an answer needs.
-/

set_option autoImplicit false

namespace MarkdownSections

/-- Why a file cannot be turned into a document. -/
inductive StructuralFault where
  | frontmatter (fault : Frontmatter.Fault)
  | unknownPreset (name : String)
  | unbalancedTokens
  | unreadableFile
deriving DecidableEq, Repr

/-- Why a value of a document is refused. -/
inductive ValueFault where
  /-- A number cannot be read or written. -/
  | numeral (fault : Text.NumeralFault)
  /-- The fields of a record do not take the value. -/
  | refused (record : String) (issues : List Issue)
deriving DecidableEq, Repr

instance : Coe Text.NumeralFault ValueFault :=
  ⟨.numeral⟩

/-- What goes wrong with a document. -/
inductive DocumentError where
  /-- A document that cannot be built, with its name. -/
  | structural (source : String) (fault : StructuralFault)
  /-- The frontmatter has a fault that does not count as one of the document. -/
  | frontmatter (fault : Frontmatter.Fault)
  /-- A line of the body has no characters where a block needs one. -/
  | unreadableLine
  /-- The nodes of the tree stand inside each other too deeply. -/
  | nestedTooDeeply
  /-- The range of levels is empty. -/
  | emptyLevelRange (least greatest : Int)
  | unknownContentMode (name : String)
  /-- The value of a tag or an attribute is refused. -/
  | value (fault : ValueFault)
  /-- A heading that ends a section covers no lines. -/
  | boundaryWithoutLines
  /-- Neither a node nor any node around it covers lines. -/
  | nodeWithoutLines
  /-- No file under a path is a document. -/
  | noFiles (path : String)
deriving DecidableEq, Repr

namespace StructuralFault

/-- The wording of a fault. What a library or a device says about it is left out. -/
def message : StructuralFault → String
  | frontmatter fault => fault.message
  | unknownPreset name =>
    let inner := "Wrong \x60markdown-it\x60 preset '" ++ name ++ "', check name"
    String.ofList (Text.Literal.quoted inner.toList)
  | unbalancedTokens => "cannot build syntax tree:"
  | unreadableFile => "cannot read file:"

end StructuralFault

/-- The wording of a fault. What a library says about it is left out. -/
def ValueFault.message : ValueFault → String
  | numeral fault => fault.message
  | refused record issues => refusalMessage record issues.length

namespace DocumentError

/-- The tag of a heading names no number. -/
@[match_pattern]
def unreadableLevel (fault : ValueFault) : DocumentError :=
  value fault

/-- The wording of an empty range of levels. -/
def emptyRangeMessage (least greatest : Int) : String :=
  "min_level (" ++ Text.showInt least ++ ") exceeds max_level (" ++ Text.showInt greatest ++ ")"

/-- The wording of an error. -/
def message : DocumentError → String
  | structural source fault => source ++ ": " ++ fault.message
  | frontmatter fault => fault.message
  | unreadableLine => "a line ends too early"
  | nestedTooDeeply => "the nodes of the tree are nested too deeply"
  | emptyLevelRange least greatest => emptyRangeMessage least greatest
  | unknownContentMode name =>
    String.ofList (Text.Literal.quoted name.toList) ++ " is not a valid ContentMode"
  | value fault => fault.message
  | boundaryWithoutLines => "a heading that ends a section covers no lines"
  | nodeWithoutLines => "no line is known for a node"
  | noFiles path => "No markdown files found at " ++ path

/-- Whether an error is about a value, and so one that a command reports; the others are faults in
the making of a document. -/
def isReported : DocumentError → Bool
  | frontmatter _ | unreadableLine | nestedTooDeeply | boundaryWithoutLines | nodeWithoutLines =>
    false
  | _ => true

end DocumentError

end MarkdownSections
