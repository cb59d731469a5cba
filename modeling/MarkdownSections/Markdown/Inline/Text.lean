import MarkdownSections.Markdown.Inline.Delimiter
import MarkdownSections.Markdown.Inline.Link

/-!
# Running text

The text of a heading, paragraph or cell is read from left to right into pieces: plain text, code,
links, images, raw HTML, references, line breaks, and the marks of emphasis. The content of a link
is read in place, with marks of its own; the content of an image is read as a text of its own.
-/

set_option autoImplicit false

namespace MarkdownSections.Markdown.Inline

/-- The state of reading: where it is, the pieces so far, plain text that is still open, last
character first, the marks among the pieces, and what passing over constructs gave. -/
structure Progress where
  place : Nat
  pieces : Array (List Token) := #[]
  pending : List Char := []
  marks : Array Mark := #[]
  skips : Skips

namespace Progress

/-- Ends the open text. -/
def flush (p : Progress) : Progress :=
  if p.pending.isEmpty then p
  else { p with pieces := p.pieces.push [textToken p.pending.reverse], pending := [] }

/-- Adds a piece behind the open text. -/
def push (p : Progress) (piece : List Token) (next : Nat) : Progress :=
  let p := p.flush
  { p with pieces := p.pieces.push piece, place := next }

/-- Adds characters to the open text. -/
def append (p : Progress) (cs : List Char) (next : Nat) : Progress :=
  { p with pending := cs.reverse ++ p.pending, place := next }

end Progress

/-! ## Pieces -/

/-- A piece whose text comes from an escape or a reference. -/
def specialText (cs : List Char) : List Token :=
  [{ type := "text_special", content := String.ofList cs }]

/-- A line break. -/
def lineBreak (hard : Bool) : List Token :=
  [{ type := if hard then "hardbreak" else "softbreak", tag := "br" }]

/-- The content of a code span: line ends become spaces, and one space on both sides is dropped if
there is more than spaces. -/
def codeContent (cs : List Char) : List Char :=
  let cs := cs.map fun c => if c = '\n' then ' ' else c
  if cs.head? = some ' ' && cs.getLast? = some ' ' && !cs.all (· = ' ') then
    (cs.drop 1).dropLast
  else cs

/-- The attributes of a link or image; an empty title is left out. -/
def targetAttributes (entries : List (String × Json)) (title : List Char) : List (String × Json) :=
  if title.isEmpty then entries else entries ++ [("title", .text (String.ofList title))]

/-- The tokens of a link around its content. -/
def linkTokens (destination title : List Char) (inside : List Token) : List Token :=
  { type := "link_open", tag := "a", nesting := 1
    attributes := targetAttributes [("href", .text (String.ofList destination))] title } ::
    inside ++ [{ type := "link_close", tag := "a", nesting := -1 }]

/-- The token of an image; its label is kept as it is written. -/
def imageToken (destination title label : List Char) (inside : List Token) : List Token :=
  [{ type := "image", tag := "img"
     attributes := targetAttributes
       [("src", .text (String.ofList destination)), ("alt", .text "")] title
     content := String.ofList label, children := inside }]

/-! ## Steps -/

/-- Reads a line end: two spaces in front make a hard break. -/
def readLineEnd (p : Progress) (next : Nat) : Progress :=
  let text := p.pending.dropWhile (· = ' ')
  if p.pending.length < text.length + 2 then
    { p with pending := text }.push (lineBreak false) next
  else { p with pending := text }.push (lineBreak true) next

/-- How a run of marks is cut: how many characters stand in front as text, how wide the marks are,
and how many they are. Marks of emphasis are one character wide. Tildes come in twos, behind a lone
one if their number is odd; where single tildes strike through, a run of one or two is one mark and
a longer one is text. -/
def cutRun (singleTilde : Bool) (c : Char) (length : Nat) : Nat × Nat × Nat :=
  if c != '~' then (0, 1, length)
  else if !singleTilde then (length % 2, 2, length / 2)
  else if length ≤ 2 then (0, length, 1)
  else (length, 1, 0)

/-- Reads a run of marks. -/
def readMarks (s : Source) (p : Progress) (stop : Nat) : Progress :=
  let c := s.char p.place
  let next := s.passWhile (· = c) p.place (stop - p.place)
  let before := if p.place = 0 then ' ' else s.char (p.place - 1)
  let after := if next < stop then s.char next else ' '
  let (opens, closes) := flanking (c != '_') before after
  let length := next - p.place
  let (front, width, count) := cutRun s.preset.singleTilde c length
  let p := if front = 0 then p else p.push [textToken (List.replicate front c)] p.place
  let p := (List.range count).foldl
    (fun p _ =>
      let p := p.flush
      let mark : Mark :=
        { char := c, width, length := if c = '~' then 0 else length, piece := p.pieces.size
          opens, closes }
      { p.push [textToken (List.replicate width c)] p.place with marks := p.marks.push mark }) p
  { p with place := next }

/-- Whether a run of marks starts at a place. -/
def startsMarks (s : Source) (i stop : Nat) : Bool :=
  let c := s.char i
  c = '*' || c = '_'
    || (c = '~' && s.preset.strikethrough
      && (s.preset.singleTilde || (i + 1 < stop && s.char (i + 1) = '~')))

/-- Reads an escaped character or line end. -/
def readEscape (s : Source) (p : Progress) (next : Nat) : Progress :=
  let c := s.char (p.place + 1)
  if c = '\n' then p.push (lineBreak true) next
  else p.push (specialText (if Text.isAsciiPunctuation c then [c] else ['\\', c])) next

/-- Reads a code span, or a lone run of backticks as text. -/
def readCode (s : Source) (p : Progress) (start : Nat) (closing : Option Nat) (next : Nat) :
    Progress :=
  match closing with
  | some closing =>
    p.push [{ type := "code_inline", tag := "code"
              content := String.ofList (codeContent (s.slice start closing)) }] next
  | none => p.append (s.slice p.place start) next

/-- How the contents of links and images are read: a link's from one place up to another, with what
passing over constructs gave; an image's as a text of its own. -/
structure Inner where
  link : Nat → Nat → Skips → List Token × Skips
  image : List Char → List Token

/-- Reads a link, an image, or whatever else starts with brackets, angles or an ampersand; one
character of text if nothing does. -/
def readBracketed (inner : Inner) (s : Source) (room : Nat) (p : Progress) (stop : Nat) :
    Progress :=
  let skip := skipConstruct s stop room
  match link? skip s p.place stop p.skips with
  | (some found, skips) =>
    let p := { p with skips }.flush
    let (inside, skips) := inner.link found.labelStart found.labelEnd p.skips
    { p with skips }.push (linkTokens found.destination found.title inside) found.next
  | (none, skips) =>
    match image? skip s p.place stop skips with
    | (some found, skips) =>
      let label := s.slice found.labelStart found.labelEnd
      { p with skips }.push (imageToken found.destination found.title label (inner.image label))
        found.next
    | (none, skips) =>
      let p := { p with skips }
      match autolink? s p.place stop with
      | some (destination, shown, next) =>
        p.push (linkTokens destination [] [textToken shown]) next
      | none =>
        match rawHtmlEnd? s p.place stop with
        | some next =>
          p.push [{ type := "html_inline", content := String.ofList (s.slice p.place next) }] next
        | none =>
          match reference? s p.place stop with
          | some (chars, next) => p.push (specialText chars) next
          | none => p.append [s.char p.place] (p.place + 1)

/-- Reads one construct. -/
def readConstruct (inner : Inner) (s : Source) (room : Nat) (p : Progress) (stop : Nat) :
    Progress :=
  match plainTextEnd? s p.place stop with
  | some next => p.append (s.slice p.place next) next
  | none =>
    if !s.preset.core then p.append [s.char p.place] (p.place + 1)
    else match lineEndEnd? s p.place stop with
      | some next => readLineEnd p next
      | none =>
        match escapeEnd? s p.place stop with
        | some next => readEscape s p next
        | none =>
          match codeSpan? s p.place stop with
          | some (start, closing, next) => readCode s p start closing next
          | none =>
            if startsMarks s p.place stop then readMarks s p stop
            else readBracketed inner s room p stop

/-- Reads constructs up to a place, at most `fuel` of them. Without room nothing but text is
read. -/
def readConstructs (inner : Inner) (s : Source) (room stop : Nat) : Nat → Progress → Progress
  | 0, p => p
  | fuel + 1, p =>
    if stop ≤ p.place then p
    else if room = 0 then
      readConstructs inner s room stop fuel (p.append [s.char p.place] (p.place + 1))
    else readConstructs inner s room stop fuel (readConstruct inner s room p stop)

/-- The tokens of a part of a text, whose links and images may stand `depth` deep; `room` counts
how many links may still be entered. -/
def tokensBetween (s : Source) : Nat → Nat → Nat → Nat → Skips → List Token × Skips
  | 0, _, start, stop, skips => ([textToken (s.slice start stop)], skips)
  | depth + 1, room, start, stop, skips =>
    let inner : Inner :=
      { link := tokensBetween s depth (room - 1)
        image := fun label =>
          let chars := label.toArray
          (tokensBetween { s with chars } depth s.preset.maxNesting 0 chars.size
            (Array.replicate chars.size 0)).1 }
    let p := (readConstructs inner s room stop (stop - start) { place := start, skips }).flush
    (resolve p.pieces p.marks, p.skips)

/-- The tokens of a text. -/
def tokensOf (preset : Preset) (definitions : List Definition) (cs : List Char) : List Token :=
  let chars := cs.toArray
  (tokensBetween { preset, definitions, chars } (chars.size + 1) preset.maxNesting 0 chars.size
    (Array.replicate chars.size 0)).1

/-- Turns the text of escapes and references into plain text and merges neighbouring texts. -/
def joinTexts (ts : List Token) : List Token :=
  mergeTexts (ts.map fun t => if t.type == "text_special" then { t with type := "text" } else t)

/-- The tokens of a text, all its plain text joined; so is that in the labels of its images, but
not in those of images inside labels. -/
def pieces (preset : Preset) (definitions : List Definition) (cs : List Char) : List Token :=
  joinTexts ((tokensOf preset definitions cs).map fun t =>
    if t.type == "image" then { t with children := joinTexts t.children } else t)

end MarkdownSections.Markdown.Inline
