import MarkdownSections.Text.LetterCase

/-!
# Log levels

A log level is named in any case and stands for a number; an unknown name stands for warnings. Two
names of the logging vocabulary are no levels and are refused.
-/

set_option autoImplicit false

namespace MarkdownSections.LogLevel

/-- Why a name is refused as a level. -/
inductive Fault where
  /-- The name of the plain format of log lines. -/
  | lineFormat
  /-- The name of the table of format styles. -/
  | styleTable
deriving DecidableEq, Repr

/-- The wording of a fault. -/
def Fault.message : Fault → String
  | lineFormat => "Unknown level: '%(levelname)s:%(name)s:%(message)s'"
  | styleTable => "Level not an integer or a valid string"

/-- The number of the level of warnings. -/
def warning : Nat := 30

/-- The levels by their names. -/
def table : List (String × Nat) :=
  [("CRITICAL", 50), ("FATAL", 50), ("ERROR", 40), ("WARNING", warning), ("WARN", warning),
    ("INFO", 20), ("DEBUG", 10), ("NOTSET", 0)]

/-- The number of the level of a name. -/
def ofName (name : String) : Except Fault Nat :=
  let name := Text.upperString name
  if name == "BASIC_FORMAT" then .error .lineFormat
  else if name == "_STYLES" then .error .styleTable
  else .ok ((table.lookup name).getD warning)

end MarkdownSections.LogLevel
