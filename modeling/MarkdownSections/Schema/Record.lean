import MarkdownSections.Schema.Loose

/-!
# Checking records

A record is checked field by field. A field may be required or have a default, and every field that
is refused gives one issue, in the order of the checks.
-/

set_option autoImplicit false

namespace MarkdownSections

/-- The result of one check: a value, or a cause for refusal. -/
abbrev Checked (α : Type) := Except Cause α

namespace Checked

/-- The issue of one checked field, if it was refused. -/
def issues {α : Type} (name : String) : Checked α → List Issue
  | .ok _ => []
  | .error cause => [⟨[.field name], cause⟩]

/-- Checks an optional field of a record: its default stands in when the record lacks it. -/
def optional {α β : Type} (entries : List (String × β)) (name : String) (default : α)
    (check : β → Checked α) : Checked α :=
  match entries.lookup name with
  | none => .ok default
  | some v => check v

/-- Checks a required field of a record. -/
def required {α β : Type} (entries : List (String × β)) (name : String)
    (check : β → Checked α) : Checked α :=
  match entries.lookup name with
  | none => .error .missing
  | some v => check v

end Checked

end MarkdownSections
