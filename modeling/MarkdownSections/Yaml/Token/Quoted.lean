import MarkdownSections.Text.Utf8
import MarkdownSections.Yaml.Cursor
import MarkdownSections.Yaml.Fault

/-!
# Quoted scalars

Between single quotes a quote is written twice and nothing else is special; between double quotes a
backslash starts an escape. In both, blanks around a line end are dropped, the line end becomes a
space, and further empty lines stay as line ends.
-/

set_option autoImplicit false

namespace MarkdownSections.Yaml.Quoted

/-- The character of a one-letter escape. -/
def shortEscape? : Char → Option Char
  | '0' => some endMark
  | 'a' => some '\x07'
  | 'b' => some '\x08'
  | 't' | '\t' => some '\t'
  | 'n' => some '\n'
  | 'v' => some '\x0b'
  | 'f' => some '\x0c'
  | 'r' => some '\r'
  | 'e' => some '\x1b'
  | ' ' => some ' '
  | '"' => some '"'
  | '\\' => some '\\'
  | '/' => some '/'
  | 'N' => some '\u0085'
  | '_' => some '\u00a0'
  | 'L' => some '\u2028'
  | 'P' => some '\u2029'
  | _ => none

/-- How many hexadecimal digits an escape takes. -/
def codeLength? : Char → Option Nat
  | 'x' => some 2
  | 'u' => some 4
  | 'U' => some 8
  | _ => none

/-- Checks the number of a character; halves of surrogate pairs pass. -/
def checkCode (n : Nat) : Except Fault Nat :=
  if 0x7FFFFFFF < n then .error (.scalar .codeTooLarge)
  else if 0x10FFFF < n then .error (.scalar .code)
  else .ok n

/-- The line ends among blanks and line ends, and the cursor behind them. A document marker must
not stand there. -/
def breaks : Nat → Cursor → Except Fault (List Char × Cursor)
  | 0, _ => .error .malformed
  | fuel + 1, c =>
    if c.atDocumentMark then .error .malformed
    else
      let c := c.skip fun x => x == ' ' || x == '\t'
      match c.lineBreak? with
      | none => .ok ([], c)
      | some (x, c) => do
        let (more, c) ← breaks fuel c
        return (x :: more, c)

/-- Reads blanks and line ends between two words. -/
def gap (c : Cursor) : Except Fault (List Char × Cursor) :=
  let (blanks, c) := c.span fun x => x == ' ' || x == '\t'
  match c.lineBreak? with
  | some (x, c) => do
    let (more, c) ← breaks (c.rest.length + 1) c
    return (if x != '\n' then x :: more else if more.isEmpty then [' '] else more, c)
  | none => if c.peek == endMark then .error .malformed else .ok (blanks, c)

/-- Reads an escape behind its backslash: the code points that it stands for. -/
def escape (c : Cursor) : Except Fault (List Nat × Cursor) :=
  match shortEscape? c.peek, codeLength? c.peek with
  | some x, _ => .ok ([x.toNat], c.step)
  | none, some n =>
    match Text.hexNumber? (c.step.rest.take n) with
    | some code =>
      if c.step.rest.length < n then .error .malformed
      else do
        let point ← checkCode code
        return ([point], c.step.advance n)
    | none => .error .malformed
  | none, none =>
    match c.lineBreak? with
    | some (_, c) => do
      let (front, c) ← breaks (c.rest.length + 1) c
      return (Text.pointsOfChars front, c)
    | none => .error .malformed

/-- Reads the rest of a quoted scalar and its closing quote. -/
def readFrom (quote : Char) : Nat → Cursor → Except Fault (List Nat × Cursor)
  | 0, _ => .error .malformed
  | fuel + 1, c =>
    let goOn (front : List Nat) (c : Cursor) : Except Fault (List Nat × Cursor) := do
      let (more, c) ← readFrom quote fuel c
      return (front ++ more, c)
    let x := c.peek
    if x == quote then
      if quote == '\'' && c.peekAt 1 == '\'' then goOn [x.toNat] (c.advance 2)
      else .ok ([], c.step)
    else if quote == '"' && x == '\\' then do
      let (front, c) ← escape c.step
      goOn front c
    else if isBlankOrEnd x then do
      let (front, c) ← gap c
      goOn (Text.pointsOfChars front) c
    else goOn [x.toNat] c.step

/-- Reads a quoted scalar, with the cursor in front of its opening quote. -/
def read (quote : Char) (c : Cursor) : Except Fault (List Nat × Cursor) :=
  readFrom quote (c.rest.length + 1) c.step

end MarkdownSections.Yaml.Quoted
