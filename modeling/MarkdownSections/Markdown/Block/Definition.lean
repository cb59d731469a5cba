import MarkdownSections.Markdown.Block.Start

/-!
# Reference definitions

A definition is a label in brackets, a colon, a destination, and perhaps a title. It may run over
several lines, which are taken in one by one where the text reaches a line end, as long as they
could continue a paragraph. A title that what follows it spoils is left out, if the destination
stands at the end of its line.
-/

set_option autoImplicit false

namespace MarkdownSections.Markdown.Block

/-- The text still to be read, and the number of the line that comes behind it. -/
structure Unread where
  text : List Char
  next : Nat

/-- The content of a line with its line end. -/
def contentLine (l : Line) : List Char :=
  l.content ++ l.lineEnd

/-- The next line, if it continues the definition. -/
def continuation? (ctx : Context) (i : Nat) : Option (List Char) :=
  let l := ctx.line i
  if ctx.limit ≤ i || l.isEmpty then none
  else if !ctx.isCode l && 0 ≤ l.indent && interrupts ctx .definition i ctx.limit then none
  else some (contentLine l)

/-- Takes in the next line behind a text that ends, if it continues the definition. -/
def takeLine (ctx : Context) (u : Unread) : Unread :=
  match continuation? ctx u.next with
  | some line => ⟨u.text ++ line, u.next + 1⟩
  | none => u

/-- Reads a label up to its closing bracket: the label and what follows the bracket. Every step
takes at least one character of the lines before `limit`, so that `fuel` bounds the label. -/
def readLabel (ctx : Context) : Nat → Unread → Option (List Char × Unread)
  | 0, _ => none
  | fuel + 1, u =>
    let continued (front : List Char) (u : Unread) : Option (List Char × Unread) :=
      (readLabel ctx fuel u).map fun (label, u) => (front ++ label, u)
    match u.text with
    | [] => none
    | '[' :: _ => none
    | ']' :: rest => some ([], { u with text := rest })
    | '\n' :: rest => continued ['\n'] (takeLine ctx { u with text := rest })
    | '\\' :: '\n' :: rest => continued ['\\', '\n'] (takeLine ctx { u with text := rest })
    | '\\' :: c :: rest => continued ['\\', c] { u with text := rest }
    | c :: rest => continued [c] { u with text := rest }

/-- Passes over blanks and line ends. -/
def skipBlankLines (ctx : Context) : Nat → Unread → Unread
  | 0, u => u
  | fuel + 1, u =>
    match u.text with
    | '\n' :: rest => skipBlankLines ctx fuel (takeLine ctx { u with text := rest })
    | c :: rest => if isSpace c then skipBlankLines ctx fuel { u with text := rest } else u
    | [] => u

/-- Reads a title that may run over several lines; `front` is what the earlier lines gave. -/
def readLongTitle (ctx : Context) (closing : Char) (front : List Char) :
    Nat → Unread → Option (List Char × Unread)
  | 0, _ => none
  | fuel + 1, u =>
    match readTitle closing u.text with
    | .closed text rest => some (front ++ unescape text, { u with text := rest })
    | .refused => none
    | .unended text =>
      match continuation? ctx u.next with
      | some line => readLongTitle ctx closing (front ++ unescape text) fuel ⟨line, u.next + 1⟩
      | none => none

/-- Reads the title of a definition. -/
def readDefinitionTitle (ctx : Context) (u : Unread) : Option (List Char × Unread) :=
  match u.text with
  | c :: rest => do
    let closing ← titleClosing? c
    readLongTitle ctx closing [] (ctx.limit + 1) { u with text := rest }
  | [] => none

/-- What stands behind blanks, if that is the end of the line. -/
def lineIsOver (u : Unread) : Bool :=
  match u.text.dropWhile isSpace with
  | [] => true
  | c :: _ => c = '\n'

/-- The title behind a destination and the line after the definition; nothing when the definition
is followed by anything else on its line. -/
def finishDefinition (ctx : Context) (fuel : Nat) (u : Unread) : Option (List Char × Nat) :=
  let withoutTitle := if lineIsOver u then some ([], u.next) else none
  let spaced := skipBlankLines ctx fuel u
  let isSetOff := (u.text.head?.map fun c => isSpace c || c = '\n').getD false
  match readDefinitionTitle ctx spaced with
  | some (title, v) =>
    -- a title that ends on its first line has to be set off from the destination
    if !isSetOff && v.next = spaced.next then withoutTitle
    else if lineIsOver v then some (title, v.next)
    else if title.isEmpty then none
    else withoutTitle
  | none => withoutTitle

/-- How many characters the lines of a container hold, which bounds every loop over them. -/
def characterCount (ctx : Context) : Nat :=
  ctx.lines.foldl (fun n l => n + l.chars.length + 1) 1

/-- The definition whose label starts with a text behind its opening bracket. -/
def definitionText? (ctx : Context) (u : Unread) : Option Blocks := do
  let fuel := characterCount ctx
  match ← readLabel ctx fuel u with
  | (label, ⟨':' :: rest, next⟩) =>
    let u := skipBlankLines ctx fuel ⟨rest, next⟩
    let (destination, rest) ← allowedDestination? u.text
    let (title, next) ← finishDefinition ctx fuel { u with text := rest }
    let label := normalizeLabel label
    if label.isEmpty then none else some { next, definitions := [⟨label, destination, title⟩] }
  | _ => none

/-- A reference definition. -/
def definition? (ctx : Context) (start : Nat) : Option Blocks :=
  let l := ctx.line start
  if ctx.isCode l then none
  else match contentLine l with
    | '[' :: rest => definitionText? ctx ⟨rest, start + 1⟩
    | _ => none

end MarkdownSections.Markdown.Block
