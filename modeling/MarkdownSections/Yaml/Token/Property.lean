import MarkdownSections.Text.Utf8
import MarkdownSections.Yaml.Cursor
import MarkdownSections.Yaml.Fault
import MarkdownSections.Yaml.Token.Basic

/-!
# Anchors, tags and directives

The tokens that name a node, give it a type, or set the stage for a document.
-/

set_option autoImplicit false

namespace MarkdownSections.Yaml.Property

/-- Reads a name behind its mark, for an anchor or an alias. -/
def name (c : Cursor) : Except Fault (String × Cursor) :=
  let (word, c) := c.step.span isWordChar
  let next := c.peek
  if word.isEmpty then .error .malformed
  else if isBlankOrEnd next || ['?', ':', ',', ']', '\x7d', '%', '@', '\x60'].contains next then
    .ok (String.ofList word, c)
  else .error .malformed

/-! ## Tags -/

/-- The characters of a tag that stand for themselves. -/
def isTagChar (c : Char) : Bool :=
  c.isAlphanum
    || ['-', ';', '/', '?', ':', '@', '&', '=', '+', '$', ',', '_', '.', '!', '~', '*', '\'', '(',
      ')', '[', ']'].contains c

/-- The bytes of a run of percent escapes, and the cursor behind them. -/
def escapes : Nat → Cursor → Except Fault (List Nat × Cursor)
  | 0, _ => .error .malformed
  | fuel + 1, c =>
    match c.rest with
    | '%' :: a :: b :: _ =>
      match Text.hexNumber? [a, b] with
      | some byte => do
        let (more, c) ← escapes fuel (c.advance 3)
        return (byte :: more, c)
      | none => .error .malformed
    | '%' :: _ => .error .malformed
    | _ => .ok ([], c)

/-- Reads the text of a tag; runs of escapes are UTF-8. -/
def tagText : Nat → Cursor → Except Fault (List Char × Cursor)
  | 0, _ => .error .malformed
  | fuel + 1, c =>
    let (front, c) := c.span isTagChar
    if c.peek == '%' then do
      let (bytes, c) ← escapes (c.rest.length + 1) c
      match Text.Utf8.decode? bytes with
      | none => throw .malformed
      | some decoded => do
        let (more, c) ← tagText fuel c
        return (front ++ decoded ++ more, c)
    else .ok (front, c)

/-- Reads the text of a tag, which is not empty. -/
def fullTagText (c : Cursor) : Except Fault (String × Cursor) := do
  let (text, next) ← tagText (c.rest.length + 1) c
  if next.index == c.index then throw .malformed
  return (String.ofList text, next)

/-- Reads a tag handle: an exclamation mark, or a word between two. -/
def handle (c : Cursor) : Except Fault (String × Cursor) :=
  if c.peek != '!' then .error .malformed
  else
    let (word, next) := c.step.span isWordChar
    if next.peek == '!' then .ok (String.ofList ('!' :: word ++ ['!']), next.step)
    else if c.peekAt 1 == ' ' then .ok ("!", c.step)
    else .error .malformed

/-- Whether an exclamation mark comes before the next space. -/
def hasHandle (c : Cursor) : Bool :=
  (c.step.rest.takeWhile (!isSpaceOrEnd ·)).contains '!'

/-- Reads a tag. -/
def tag (c : Cursor) : Except Fault (Token × Cursor) := do
  let (token, c) ←
    if c.peekAt 1 == '<' then do
      let (text, c) ← fullTagText (c.advance 2)
      if c.peek != '>' then throw .malformed
      pure (Token.tag none text, c.step)
    else if isBlankOrEnd (c.peekAt 1) then pure (Token.tag none "!", c.step)
    else do
      let (handle, c) ← if hasHandle c then handle c else pure ("!", c.step)
      let (suffix, c) ← fullTagText c
      pure (Token.tag (some handle) suffix, c)
  if !isSpaceOrEnd c.peek then throw .malformed
  return (token, c)

/-! ## Directives -/

/-- Reads a whole number of a version. -/
def number (c : Cursor) : Except Fault (Nat × Cursor) :=
  let (digits, c) := c.span Char.isDigit
  if digits.isEmpty then .error .malformed
  else if Text.maxDigits < digits.length then .error (.scalar (.integer (.tooLong digits.length)))
  else .ok (digits.foldl (fun n d => 10 * n + (d.toNat - 0x30)) 0, c)

/-- Reads a version: two numbers with a point between them. -/
def version (c : Cursor) : Except Fault (Token × Cursor) := do
  let (major, c) ← number (c.skip (· == ' '))
  if c.peek != '.' then throw .malformed
  let (_, c) ← number c.step
  if !isSpaceOrEnd c.peek then throw .malformed
  return (.version major, c)

/-- Reads a tag handle and what it stands for. -/
def tagPrefix (c : Cursor) : Except Fault (Token × Cursor) := do
  let (handle, c) ← handle (c.skip (· == ' '))
  if c.peek != ' ' then throw .malformed
  let (expansion, c) ← fullTagText (c.skip (· == ' '))
  if !isSpaceOrEnd c.peek then throw .malformed
  return (.tagPrefix handle expansion, c)

/-- Reads a directive and the rest of its line. -/
def directive (c : Cursor) : Except Fault (Token × Cursor) := do
  let (word, c) := c.step.span isWordChar
  if word.isEmpty || !isSpaceOrEnd c.peek then throw .malformed
  let (token, c) ←
    if word == ['Y', 'A', 'M', 'L'] then version c
    else if word == ['T', 'A', 'G'] then tagPrefix c
    else pure (.otherDirective, c.skip (!isBreakOrEnd ·))
  let c := c.skip (· == ' ')
  let c := if c.peek == '#' then c.skip (!isBreakOrEnd ·) else c
  match c.lineBreak? with
  | some (_, c) => return (token, c)
  | none => if c.peek == endMark then return (token, c) else throw .malformed

end MarkdownSections.Yaml.Property
