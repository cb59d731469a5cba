import MarkdownSections.Markdown.Basic
import MarkdownSections.Markdown.Html
import MarkdownSections.Markdown.LinkText

/-!
# Links and images

A link or image starts with a label in brackets; a destination in parentheses, a second label, or
nothing follows. To find where a label ends, one construct after the other is passed over. What
passing over a place gives is remembered, together with the depth at which the search gives up, so
that no place is looked at twice.

`LinkScan.skip` passes over one construct. It is the only recursion here: links contain labels, and
labels contain constructs.
-/

set_option autoImplicit false

namespace MarkdownSections.Markdown.Inline

/-- What stays the same while a text is read: the parser, the definitions of the document, and the
characters of the text. -/
structure Source where
  preset : Preset
  definitions : List Definition
  chars : Array Char

namespace Source

/-- The character at a place; behind the end there are spaces. -/
def char (s : Source) (i : Nat) : Char :=
  s.chars.getD i ' '

/-- The characters from one place up to another. -/
def slice (s : Source) (start stop : Nat) : List Char :=
  (s.chars.extract start stop).toList

/-- All characters from a place on. -/
def suffixFrom (s : Source) (start : Nat) : List Char :=
  s.slice start s.chars.size

/-- The first place from `i` on, within `count` characters, whose character does not satisfy
`p`. -/
def passWhile (s : Source) (p : Char → Bool) (i : Nat) : Nat → Nat
  | 0 => i
  | count + 1 => if p (s.char i) then s.passWhile p (i + 1) count else i

/-- The definition of a label. -/
def definition? (s : Source) (label : List Char) : Option Definition :=
  let key := normalizeLabel label
  s.definitions.find? (·.label == key)

end Source

/-- Where passing over the construct at a place leads; zero stands for a place not looked at. -/
abbrev Skips := Array Nat

/-- A link or image that was found: its label, its destination and title, and the place behind
it. -/
structure LinkMatch where
  labelStart : Nat
  labelEnd : Nat
  destination : List Char
  title : List Char
  next : Nat

/-! ## Constructs without labels -/

/-- Whether a character may start a construct, so that plain text ends in front of it. -/
def endsPlainText (c : Char) : Bool :=
  ['\n', '!', '#', '$', '%', '&', '*', '+', '-', ':', '<', '=', '>', '@', '[', '\\', ']', '^', '_',
    '\x60', '\x7b', '\x7d', '~'].contains c

/-- The place behind plain text. -/
def plainTextEnd? (s : Source) (i stop : Nat) : Option Nat :=
  let next := s.passWhile (!endsPlainText ·) i (stop - i)
  if i < next then some next else none

/-- The place behind a line end and the blanks that start the next line. -/
def lineEndEnd? (s : Source) (i stop : Nat) : Option Nat :=
  if s.char i = '\n' then some (s.passWhile isSpace (i + 1) (stop - (i + 1))) else none

/-- The place behind an escaped character or line end. -/
def escapeEnd? (s : Source) (i stop : Nat) : Option Nat :=
  if s.char i = '\\' && i + 1 < stop then
    if s.char (i + 1) = '\n' then some (s.passWhile isSpace (i + 2) (stop - (i + 2)))
    else some (i + 2)
  else none

/-- How many backticks stand from a place on. -/
def backtickRun (s : Source) (i stop : Nat) : Nat :=
  s.passWhile (· = '\x60') i (stop - i) - i

/-- The place of the first run of exactly `length` backticks from `i` on; `count` bounds the
search. -/
def closingRun? (s : Source) (length stop i : Nat) : Nat → Option Nat
  | 0 => none
  | count + 1 =>
    if stop ≤ i then none
    else
      let run := backtickRun s i stop
      if run = 0 then closingRun? s length stop (i + 1) count
      else if run = length then some i
      else closingRun? s length stop (i + run) count

/-- A code span or a lone run of backticks: the place behind the opening run, the place of the
closing run if there is one, and the place behind it all. -/
def codeSpan? (s : Source) (i stop : Nat) : Option (Nat × Option Nat × Nat) :=
  let run := backtickRun s i stop
  if run = 0 then none
  else match closingRun? s run stop (i + run) (stop - i) with
    | some closing => some (i + run, some closing, closing + run)
    | none => some (i + run, none, i + run)

/-- Whether a text is an address with a scheme of two to thirty-two characters. -/
def isAddress (cs : List Char) : Bool :=
  let isSchemeChar (c : Char) : Bool := c.isAlphanum || c = '+' || c = '.' || c = '-'
  let scheme := cs.takeWhile isSchemeChar
  match cs.drop scheme.length with
  | ':' :: rest =>
    (scheme.head?.map Char.isAlpha).getD false && 2 ≤ scheme.length && scheme.length ≤ 32
      && (Text.withoutFinalNewline rest).all fun c => !(c = '<' || c = '>' || c.toNat ≤ 0x20)
  | _ => false

/-- Whether a text is a label of a mail host: letters, digits and inner hyphens, at most 63. -/
def isMailLabel (cs : List Char) : Bool :=
  1 ≤ cs.length && cs.length ≤ 63 && cs.all (fun c => c.isAlphanum || c = '-')
    && cs.head? != some '-' && cs.getLast? != some '-'

/-- Whether a text is a mail address. -/
def isMailAddress (cs : List Char) : Bool :=
  let isUserChar (c : Char) : Bool :=
    c.isAlphanum || ".!#$%&'*+/=?^_\x60\x7b|\x7d~-".toList.contains c
  let user := cs.takeWhile isUserChar
  match cs.drop user.length with
  | '@' :: host =>
    !user.isEmpty && (Text.splitWhen (· = '.') (Text.withoutFinalNewline host)).all isMailLabel
  | _ => false

/-- A link in angle brackets: its destination, the text shown for it, and the place behind it. -/
def autolink? (s : Source) (i stop : Nat) : Option (List Char × List Char × Nat) :=
  if s.char i = '<' then
    let close := s.passWhile (fun c => c != '<' && c != '>') (i + 1) (stop - (i + 1))
    if close < stop && s.char close = '>' then
      let url := s.slice (i + 1) close
      let target :=
        if isAddress url then some url
        else if isMailAddress url then some ("mailto:".toList ++ url)
        else none
      match target with
      | none => none
      | some target =>
        let destination := Url.normalize target
        if Url.isAllowed destination then some (destination, Url.display url, close + 1) else none
    else none
  else none

/-- The place behind raw HTML. -/
def rawHtmlEnd? (s : Source) (i stop : Nat) : Option Nat :=
  if s.preset.html && s.char i = '<' && i + 2 < stop then
    let cs := s.suffixFrom i
    (Html.afterAny? cs).map fun rest => i + (cs.length - rest.length)
  else none

/-- A character reference: its characters and the place behind it. -/
def reference? (s : Source) (i stop : Nat) : Option (List Char × Nat) :=
  if s.char i = '&' && i + 1 < stop then
    let cs := s.suffixFrom (i + 1)
    (textReference? cs).map fun (chars, rest) => (chars, i + 1 + (cs.length - rest.length))
  else none

/-! ## Labels and what follows them -/

/-- The place of the bracket that closes a label, searched from `i` on with `depth` brackets open;
`skip` passes over one construct. Where links must not contain links, a construct that starts with
a bracket ends the search. -/
def findLabelEnd (skip : Nat → Skips → Nat × Skips) (s : Source) (stop : Nat) (refuseLinks : Bool) :
    Nat → Nat → Nat → Skips → Option Nat × Skips
  | 0, _, _, skips => (none, skips)
  | fuel + 1, i, depth, skips =>
    if stop ≤ i then (none, skips)
    else
      let c := s.char i
      if c = ']' && depth = 1 then (some i, skips)
      else
        let depth := if c = ']' then depth - 1 else depth
        let (next, skips) := skip i skips
        if c = '[' then
          if next = i + 1 then findLabelEnd skip s stop refuseLinks fuel next (depth + 1) skips
          else if refuseLinks then (none, skips)
          else findLabelEnd skip s stop refuseLinks fuel next depth skips
        else findLabelEnd skip s stop refuseLinks fuel next depth skips

/-- The place of the bracket that closes the label whose opening bracket stands at `i`. -/
def labelEnd? (skip : Nat → Skips → Nat × Skips) (s : Source) (stop : Nat) (refuseLinks : Bool)
    (i : Nat) (skips : Skips) : Option Nat × Skips :=
  findLabelEnd skip s stop refuseLinks (stop - i + 1) (i + 1) 1 skips

/-- Whether a character may stand between the parts of a link. -/
def isLinkBlank (c : Char) : Bool :=
  isSpace c || c = '\n'

/-- The place behind blanks and line ends. -/
def passBlanks (s : Source) (i stop : Nat) : Nat :=
  s.passWhile isLinkBlank i (stop - i)

/-- What stands in the parentheses behind a label, read from behind the opening one: destination,
title, and the place where reading stopped. -/
def linkTail (s : Source) (i stop : Nat) : List Char × List Char × Nat :=
  let (destination, i, found) := match linkDestination? (s.slice i stop) with
    | none => ([], i, false)
    | some (written, rest) =>
      let url := Url.normalize written
      if Url.isAllowed url then (url, stop - rest.length, true) else ([], i, true)
  let spaced := passBlanks s i stop
  match found, linkTitle? (s.slice spaced stop) with
  | true, some (title, rest) =>
    if i < spaced then (destination, title, passBlanks s (stop - rest.length) stop)
    else (destination, [], spaced)
  | true, none => (destination, [], spaced)
  | false, _ => (destination, [], i)

/-- The label that a link or image refers to, and the place behind it: the label behind the first
one, or the first label when that is missing or empty. -/
def referredLabel (skip : Nat → Skips → Nat × Skips) (s : Source) (stop : Nat)
    (labelStart labelEnd i : Nat) (skips : Skips) : (List Char × Nat) × Skips :=
  let own := s.slice labelStart labelEnd
  if i < stop && s.char i = '[' then
    let (closing, skips) := labelEnd? skip s stop false i skips
    match closing with
    | some closing =>
      let label := s.slice (i + 1) closing
      ((if label.isEmpty then own else label, closing + 1), skips)
    | none => ((own, labelEnd + 1), skips)
  else ((own, labelEnd + 1), skips)

/-- A link or image that refers to a definition; the second label is looked for at `i`. -/
def referenceMatch? (skip : Nat → Skips → Nat × Skips) (s : Source) (stop : Nat)
    (labelStart labelEnd i : Nat) (skips : Skips) : Option LinkMatch × Skips :=
  if s.definitions.isEmpty then (none, skips)
  else
    let ((label, next), skips) := referredLabel skip s stop labelStart labelEnd i skips
    ((s.definition? label).map fun d => ⟨labelStart, labelEnd, d.destination, d.title, next⟩, skips)

/-- The link whose opening bracket stands at `i`. Where the parentheses behind the label hold no
destination and title, the label may still refer to a definition. -/
def link? (skip : Nat → Skips → Nat × Skips) (s : Source) (i stop : Nat) (skips : Skips) :
    Option LinkMatch × Skips :=
  if s.char i != '[' then (none, skips)
  else
    match labelEnd? skip s stop true i skips with
    | (none, skips) => (none, skips)
    | (some close, skips) =>
      if close + 1 < stop && s.char (close + 1) = '(' then
        let inside := passBlanks s (close + 2) stop
        if stop ≤ inside then (none, skips)
        else
          let (destination, title, reached) := linkTail s inside stop
          if reached < stop && s.char reached = ')' then
            (some ⟨i + 1, close, destination, title, reached + 1⟩, skips)
          else referenceMatch? skip s stop (i + 1) close (reached + 1) skips
      else referenceMatch? skip s stop (i + 1) close (close + 1) skips

/-- What stands in the parentheses behind an image's label: like that of a link, except that a
title may follow where a destination is missing. -/
def imageTail (s : Source) (i stop : Nat) : List Char × List Char × Nat :=
  let (destination, i) := match linkDestination? (s.slice i stop) with
    | none => ([], i)
    | some (written, rest) =>
      let url := Url.normalize written
      if Url.isAllowed url then (url, stop - rest.length) else ([], i)
  let spaced := passBlanks s i stop
  match linkTitle? (s.slice spaced stop) with
  | some (title, rest) =>
    if i < spaced then (destination, title, passBlanks s (stop - rest.length) stop)
    else (destination, [], spaced)
  | none => (destination, [], spaced)

/-- The image whose exclamation mark stands at `i`. -/
def image? (skip : Nat → Skips → Nat × Skips) (s : Source) (i stop : Nat) (skips : Skips) :
    Option LinkMatch × Skips :=
  if s.char i != '!' || (i + 1 < stop && s.char (i + 1) != '[') then (none, skips)
  else
    match labelEnd? skip s stop false (i + 1) skips with
    | (none, skips) => (none, skips)
    | (some close, skips) =>
      if close + 1 < stop && s.char (close + 1) = '(' then
        let inside := passBlanks s (close + 2) stop
        if stop ≤ inside then (none, skips)
        else
          let (destination, title, reached) := imageTail s inside stop
          if reached < stop && s.char reached = ')' then
            (some ⟨i + 2, close, destination, title, reached + 1⟩, skips)
          else (none, skips)
      else referenceMatch? skip s stop (i + 2) close (close + 1) skips

/-! ## Passing over constructs -/

/-- The place behind the construct at `i`, if there is one that is more than one character of
text. -/
def constructEnd? (skip : Nat → Skips → Nat × Skips) (s : Source) (i stop : Nat) (skips : Skips) :
    Option Nat × Skips :=
  match plainTextEnd? s i stop with
  | some next => (some next, skips)
  | none =>
    if !s.preset.core then (none, skips)
    else
      match ((lineEndEnd? s i stop).orElse fun _ => (escapeEnd? s i stop).orElse fun _ =>
          (codeSpan? s i stop).map (·.2.2)) with
      | some next => (some next, skips)
      | none =>
        match link? skip s i stop skips with
        | (some found, skips) => (some found.next, skips)
        | (none, skips) =>
          match image? skip s i stop skips with
          | (some found, skips) => (some found.next, skips)
          | (none, skips) =>
            (((autolink? s i stop).map (·.2.2)).orElse fun _ =>
              (rawHtmlEnd? s i stop).orElse fun _ => (reference? s i stop).map (·.2), skips)

/-- Passes over the construct at place `i`, or over one character. `room` counts how many labels
may still be entered; without room the search gives up behind the end of the text. -/
def skipConstruct (s : Source) (stop : Nat) : Nat → Nat → Skips → Nat × Skips
  | room, i, skips =>
    match skips.getD i 0, room with
    | next + 1, _ => (next + 1, skips)
    | 0, 0 => (stop + 1, skips.setIfInBounds i (stop + 1))
    | 0, room + 1 =>
      let (found, skips) := constructEnd? (skipConstruct s stop room) s i stop skips
      let next := found.getD (i + 1)
      (next, skips.setIfInBounds i next)

end MarkdownSections.Markdown.Inline
