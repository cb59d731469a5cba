import MarkdownSections.Text.CaseTable
import MarkdownSections.Text.Utf8

/-!
# Letter case

Full case conversion: a character may become several, and a capital sigma at the end of a word
becomes the final form of the small one.
-/

set_option autoImplicit false

namespace MarkdownSections.Text

/-- The image of a character under a table of runs and expansions; others stay as they are. -/
def mapCase (runs : List CaseRun) (expansions : List (Nat × List Nat)) (c : Char) : List Char :=
  match expansions.lookup c.toNat with
  | some ns => ns.map Char.ofNat
  | none => [((runs.findSome? fun r => r.map? c.toNat).map Char.ofNat).getD c]

/-- The uppercase form of one character. -/
def upperChar (c : Char) : List Char :=
  if c.toNat < 0x80 then [c.toUpper] else mapCase upperRuns upperExpansions c

/-- The lowercase form of one character, whatever stands around it. -/
def lowerChar (c : Char) : List Char :=
  if c.toNat < 0x80 then [c.toLower] else mapCase lowerRuns lowerExpansions c

/-- The uppercase form of a text. -/
def upper (cs : List Char) : List Char :=
  cs.flatMap upperChar

/-- Whether the first character that case conversion does not look through is a letter. -/
def meetsCased : List Char → Bool
  | [] => false
  | c :: cs => if inRanges caseIgnorableRanges c then meetsCased cs else inRanges casedRanges c

/-- Helper of `lower`: `before` holds the characters already converted, last first. -/
def lowerFrom (before : List Char) : List Char → List Char
  | [] => []
  | c :: cs =>
    let image :=
      if c = 'Σ' then [if meetsCased before && !meetsCased cs then 'ς' else 'σ'] else lowerChar c
    image ++ lowerFrom (c :: before) cs

/-- The lowercase form of a text. -/
def lower (cs : List Char) : List Char :=
  lowerFrom [] cs

/-- The lowercase form of a text of code points; what is no character stays, and no word runs over
it. -/
def lowerPoints (points : List Nat) : List Nat :=
  (points.splitBy fun m n => decide (m.isValidChar ↔ n.isValidChar)).flatMap fun run =>
    if areChars run then pointsOfChars (lower (charsOfPoints run)) else run

/-- The lowercase form of a string. -/
def lowerString (s : String) : String :=
  String.ofList (lower s.toList)

/-- The uppercase form of a string. -/
def upperString (s : String) : String :=
  String.ofList (upper s.toList)

end MarkdownSections.Text
