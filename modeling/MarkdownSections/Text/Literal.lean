import MarkdownSections.Text.Numeral
import MarkdownSections.Text.Printable

/-!
# Quoted literals

A text between quotes, with escapes for what cannot be printed. The quote is the single one,
unless the text holds a single quote and no double one.
-/

set_option autoImplicit false

namespace MarkdownSections.Text.Literal

/-- The escape of a code point that is not printed: two, four or eight hexadecimal digits. -/
def escapeCode (n : Nat) : List Char :=
  if n < 0x100 then '\\' :: 'x' :: hexDigits 2 n
  else if n < 0x10000 then '\\' :: 'u' :: hexDigits 4 n
  else '\\' :: 'U' :: hexDigits 8 n

/-- One character inside quotes of the kind `quote`. -/
def escapeChar (quote c : Char) : List Char :=
  if c = quote || c = '\\' then ['\\', c]
  else if c = '\n' then ['\\', 'n']
  else if c = '\r' then ['\\', 'r']
  else if c = '\t' then ['\\', 't']
  else if isPrintable c then [c]
  else escapeCode c.toNat

/-- The quote for a text: single, unless only the double one avoids an escape. -/
def quoteFor (cs : List Char) : Char :=
  if cs.contains '\'' && !cs.contains '"' then '"' else '\''

/-- A text as a quoted literal. -/
def quoted (cs : List Char) : List Char :=
  let q := quoteFor cs
  q :: cs.flatMap (escapeChar q) ++ [q]

/-- A text given by its code points as a quoted literal; a code point that is no character is
escaped. -/
def quotedPoints (points : List Nat) : List Char :=
  let q := quoteFor ((points.filter Nat.isValidChar).map Char.ofNat)
  let escape (n : Nat) : List Char :=
    if n.isValidChar then escapeChar q (Char.ofNat n) else escapeCode n
  q :: points.flatMap escape ++ [q]

/-- A string of bytes as a quoted literal, marked by a leading `b`. -/
def quotedBytes (bytes : List Nat) : List Char :=
  let cs := bytes.map Char.ofNat
  let q := quoteFor cs
  let escape (c : Char) : List Char :=
    if c.toNat < 0x7F then escapeChar q c else escapeCode c.toNat
  'b' :: q :: cs.flatMap escape ++ [q]

end MarkdownSections.Text.Literal
