import MarkdownSections.Text.Numeral

/-!
# Issues

What a check of loose values finds wrong: where, as a path of positions and field names, and why.
A check reports all issues, in the order of the fields.
-/

set_option autoImplicit false

namespace MarkdownSections

/-- One step into a value. -/
inductive Step where
  | index (position : Nat)
  | field (name : String)
deriving DecidableEq, Repr

/-- Why a value is refused. -/
inductive Cause where
  | missing
  | notARecord
  | notAList
  | notAText
  | garbledText
  | notInEnumeration
  | patternMismatch
  | notAnInteger
  | unreadableInteger
  | integerTooLong
  | fractionalNumber
  | notFinite
  | notABoolean
  | unreadableBoolean
  | tooSmall
  | tooLarge
  | unsound
  | malformedFile
deriving DecidableEq, Repr

/-- A refused value: where it stands and why it is refused. -/
structure Issue where
  path : List Step
  cause : Cause
deriving DecidableEq, Repr

/-- The wording of the refusal of a record with a number of issues. -/
def refusalMessage (record : String) (count : Nat) : String :=
  Text.showNat count ++ (if count = 1 then " validation error" else " validation errors")
    ++ " for " ++ record

/-- The same issue seen from one step further out. -/
def Issue.within (step : Step) (issue : Issue) : Issue :=
  { issue with path := step :: issue.path }

end MarkdownSections
