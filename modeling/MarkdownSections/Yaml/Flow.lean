import MarkdownSections.Yaml.Value

/-!
# Values as flow text

A value written in one run of brackets and braces. What is reached a second time is written as an
alias: `Flow.ofGraph` turns the graph into a tree in which second visits are marked, and numbers the
names in the order of these marks.

`ScalarForm` tells which quotes a text needs: none if it reads back as it stands, single ones if it
can stand between them, and double ones with escapes otherwise. Texts are in ASCII.
-/

set_option autoImplicit false

namespace MarkdownSections.Yaml

/-- A value as a tree; texts are given by their code points. What can be reached twice has its
number. -/
inductive Flow where
  | scalar (id : Option Nat) (tag : Tag) (points : List Nat)
  | sequence (id : Option Nat) (items : List Flow)
  | mapping (id : Option Nat) (isSet : Bool) (entries : List (Flow × Flow))
  /-- A second visit. -/
  | again (id : Nat)
deriving Repr, Inhabited

namespace Flow

/-! ## Trees of values -/

/-- The text of a floating-point number, which has a point even in front of an exponent. -/
def floatText (x : Binary64) : List Char :=
  match x with
  | .nan => ".nan".toList
  | .infinite negative => if negative then "-.inf".toList else ".inf".toList
  | x =>
    let cs := x.text.toList
    if cs.contains '.' then cs
    else cs.takeWhile (· != 'e') ++ '.' :: '0' :: cs.dropWhile (· != 'e')

/-- A scalar value; dates and moments are numbered. -/
def ofScalar (n : Nat) (s : Scalar) : Flow :=
  let ofChars (id : Option Nat) (tag : Tag) (cs : List Char) : Flow :=
    .scalar id tag (Text.pointsOfChars cs)
  match s with
  | .null => ofChars none .null "null".toList
  | .bool b => ofChars none .bool (if b then "true".toList else "false".toList)
  | .int i => ofChars none .int (Text.showInt i).toList
  | .float x => ofChars none .float (floatText x)
  | .text s => ofChars none .text s.toList
  | .brokenText points => .scalar none .text points
  | .bytes bs => ofChars none .binary (Text.Base64.encodeLines bs)
  | .date d => ofChars (some n) .timestamp d.text.toList
  | .moment m => ofChars (some n) .timestamp m.text.toList

/-- A scalar value, or the mark of a second visit; `seen` are the numbers visited so far. -/
def visitScalar (seen : List Nat) (n : Nat) (s : Scalar) : Flow × List Nat :=
  match ofScalar n s with
  | .scalar (some id) tag points =>
    if seen.contains id then (.again id, seen) else (.scalar (some id) tag points, id :: seen)
  | flow => (flow, seen)

/-- Visits a list from left to right. -/
def visitList {α β : Type} (visit : List Nat → α → β × List Nat) (seen : List Nat) :
    List α → List β × List Nat
  | [] => ([], seen)
  | a :: as =>
    let (b, seen) := visit seen a
    let (bs, seen) := visitList visit seen as
    (b :: bs, seen)

/-- The tree of a node. -/
def visitNode (g : Graph) : Nat → List Nat → Nat → Flow × List Nat
  | 0, seen, n => (.again n, seen)
  | fuel + 1, seen, n =>
    let pair (seen : List Nat) (e : Nat × Nat) : (Flow × Flow) × List Nat :=
      let (k, seen) := visitNode g fuel seen e.1
      let (v, seen) := visitNode g fuel seen e.2
      ((k, v), seen)
    match g.value n with
    | .scalar s => visitScalar seen n s
    | value =>
      if seen.contains n then (.again n, seen)
      else
        let seen := n :: seen
        match value with
        | .scalar s => visitScalar seen n s
        | .list items =>
          let (items, seen) := visitList (visitNode g fuel) seen items
          (.sequence (some n) items, seen)
        | .pairs entries =>
          let (entries, seen) := visitList pair seen entries
          (.sequence (some n) (entries.map fun e => .sequence none [e.1, e.2]), seen)
        | .map entries =>
          let entry (seen : List Nat) (e : (Nat × Scalar) × Nat) : (Flow × Flow) × List Nat :=
            let (k, seen) := visitScalar seen e.1.1 e.1.2
            let (v, seen) := visitNode g fuel seen e.2
            ((k, v), seen)
          let (entries, seen) := visitList entry seen entries
          (.mapping (some n) false entries, seen)
        | .set keys =>
          let key (seen : List Nat) (e : Nat × Scalar) : (Flow × Flow) × List Nat :=
            let (k, seen) := visitScalar seen e.1 e.2
            ((k, ofScalar 0 .null), seen)
          let (entries, seen) := visitList key seen keys
          (.mapping (some n) true entries, seen)

/-- The tree of a node of a graph. -/
def ofGraph (g : Graph) (n : Nat) : Flow :=
  (visitNode g (g.nodes.size + 1) [] n).1

mutual

/-- The numbers of second visits, in order. -/
def repeats : Flow → List Nat
  | .scalar .. => []
  | .again id => [id]
  | .sequence _ items => repeatsOfItems items
  | .mapping _ _ entries => repeatsOfEntries entries

/-- The numbers of second visits in items. -/
def repeatsOfItems : List Flow → List Nat
  | [] => []
  | f :: fs => repeats f ++ repeatsOfItems fs

/-- The numbers of second visits in entries. -/
def repeatsOfEntries : List (Flow × Flow) → List Nat
  | [] => []
  | (k, v) :: es => repeats k ++ repeats v ++ repeatsOfEntries es

end

/-! ## What can be written -/

mutual

/-- How many values stand inside each other at most. -/
def height : Flow → Nat
  | .scalar .. | .again _ => 1
  | .sequence _ items => heightOfItems items + 1
  | .mapping _ _ entries => heightOfEntries entries + 1

/-- How many values stand inside each other at most in items. -/
def heightOfItems : List Flow → Nat
  | [] => 0
  | f :: fs => max (height f) (heightOfItems fs)

/-- How many values stand inside each other at most in entries. -/
def heightOfEntries : List (Flow × Flow) → Nat
  | [] => 0
  | (k, v) :: es => max (max (height k) (height v)) (heightOfEntries es)

end

mutual

/-- Whether every whole number is short enough to be written. -/
def isWritable : Flow → Bool
  | .scalar _ tag points => tag != .int || (points.filter (0x30 ≤ ·)).length ≤ Text.maxDigits
  | .again _ => true
  | .sequence _ items => areWritable items
  | .mapping _ _ entries => areWritableEntries entries

/-- Whether every whole number in items is short enough to be written. -/
def areWritable : List Flow → Bool
  | [] => true
  | f :: fs => isWritable f && areWritable fs

/-- Whether every whole number in entries is short enough to be written. -/
def areWritableEntries : List (Flow × Flow) → Bool
  | [] => true
  | (k, v) :: es => isWritable k && isWritable v && areWritableEntries es

end

/-! ## Forms of scalars -/

/-- Whether a character ends a line in a written text. -/
def isLineEnd (c : Char) : Bool :=
  c == '\n' || c == '\u0085' || c == '\u2028' || c == '\u2029'

/-- Whether a character stands only in double quotes. -/
def isSpecial (c : Char) : Bool :=
  c != '\n' && !(' ' ≤ c && c ≤ '~')

/-- Whether a space stands next to a line end. -/
def hasSpaceAtLineEnd : List Char → Bool
  | a :: b :: cs =>
    (isLineEnd a && b == ' ') || (a == ' ' && isLineEnd b) || hasSpaceAtLineEnd (b :: cs)
  | _ => false

/-- The characters with which no plain text starts. -/
def startMarks : List Char :=
  ['#', ',', '[', ']', '\x7b', '\x7d', '&', '*', '!', '|', '>', '\'', '"', '%', '@', '\x60', '?',
    ':']

/-- The characters that a plain text in brackets does not hold. -/
def innerMarks : List Char :=
  [',', '?', '[', ']', '\x7b', '\x7d', ':']

/-- Whether a mark stands behind the first character; `before` is the character in front. -/
def hasInnerMark (before : Char) : List Char → Bool
  | [] => false
  | c :: cs => innerMarks.contains c || (c == '#' && isBlankOrEnd before) || hasInnerMark c cs

/-- Whether marks of the notation stand in a text. -/
def hasMarks (cs : List Char) : Bool :=
  match cs with
  | [] => false
  | c :: rest =>
    ['-', '-', '-'].isPrefixOf cs || ['.', '.', '.'].isPrefixOf cs || startMarks.contains c
      || (c == '-' && isBlankOrEnd (rest.headD endMark)) || hasInnerMark c rest

/-- Whether a text can stand in brackets without quotes. -/
def canBePlain (cs : List Char) : Bool :=
  let isEdge (c : Option Char) : Bool := (c.map fun c => c == ' ' || isLineEnd c).getD true
  !(isEdge cs.head? || isEdge cs.getLast? || cs.any isSpecial || cs.any isLineEnd || hasMarks cs)

/-- Whether a text can stand in single quotes. -/
def canBeSingle (cs : List Char) : Bool :=
  !(cs.any isSpecial || hasSpaceAtLineEnd cs)

/-- The quotes of a text. -/
inductive ScalarForm where
  | plain
  | single
  | double
deriving DecidableEq, Repr

/-- The quotes that a text of a kind needs; a key stays on one line. -/
def formOf (tag : Tag) (cs : List Char) (isKey : Bool) : ScalarForm :=
  if Tag.ofPlain cs == tag && canBePlain cs then .plain
  else if tag != .binary && canBeSingle cs && !(isKey && cs.any isLineEnd) then .single
  else .double

/-! ## Writing -/

/-- The state of writing: the text so far, last character first, and where it stands in its
line. -/
structure Output where
  chars : List Char := []
  column : Nat := 0
  /-- Whether a blank was written last. -/
  spaced : Bool := true
  /-- Whether only indentation stands in the line. -/
  indented : Bool := true

/-- The width behind which lines are broken. -/
def width : Nat := 80

namespace Output

/-- Writes characters. -/
def put (o : Output) (cs : List Char) : Output :=
  { o with chars := cs.reverse ++ o.chars, column := o.column + cs.length }

/-- Ends the line. -/
def newLine (o : Output) : Output :=
  { chars := '\n' :: o.chars }

/-- Goes to an indentation, on a new line unless only less indentation stands in this one. -/
def indentTo (o : Output) (indent : Nat) : Output :=
  let o :=
    if !o.indented || indent < o.column || (o.column == indent && !o.spaced) then o.newLine else o
  if o.column < indent then
    { o.put (List.replicate (indent - o.column) ' ') with spaced := true }
  else o

/-- Breaks the line if it is too long. -/
def breakIfLong (o : Output) (indent : Nat) : Output :=
  if width < o.column then o.indentTo indent else o

/-- Writes a mark, with a space in front of it where it needs one. -/
def mark (o : Output) (cs : List Char) (spaceBefore : Bool) : Output :=
  { o.put (if o.spaced || !spaceBefore then cs else ' ' :: cs) with
    spaced := false, indented := false }

/-- Writes an opening bracket. -/
def opening (o : Output) (c : Char) : Output :=
  { o.mark [c] true with spaced := true }

/-- Goes to an indentation within a text. -/
def breakText (o : Output) (indent : Nat) : Output :=
  { o.indentTo indent with spaced := false, indented := false }

/-! ### Plain and single-quoted texts -/

/-- Writes a run of spaces within a text that starts with `first`; a single space may become a line
break. -/
def spaces (o : Output) (indent count : Nat) (mayBreak : Bool) : Output :=
  if count = 1 && width < o.column && mayBreak then o.indentTo indent
  else o.put (List.replicate count ' ')

/-- Writes the rest of a plain text; `pending` spaces stand in front of it. -/
def plainFrom (indent : Nat) (mayBreak : Bool) (pending : Nat) (o : Output) : List Char → Output
  | [] => o.put (List.replicate pending ' ')
  | c :: cs =>
    if c == ' ' then plainFrom indent mayBreak (pending + 1) o cs
    else
      let o :=
        if pending = 1 && width < o.column && mayBreak then o.breakText indent
        else o.put (List.replicate pending ' ')
      plainFrom indent mayBreak 0 (o.put [c]) cs

/-- Writes a plain text. -/
def plain (o : Output) (indent : Nat) (mayBreak : Bool) (cs : List Char) : Output :=
  let o := if o.spaced then o else o.put [' ']
  plainFrom indent mayBreak 0 { o with spaced := false, indented := false } cs

/-- Writes a run of line ends within single quotes: one more than it has. -/
def lineEnds (o : Output) (indent count : Nat) : Output :=
  if count = 0 then o
  else ((List.replicate (count + 1) ()).foldl (fun o _ => o.newLine) o).indentTo indent

/-- Writes the rest of a single-quoted text; `first` tells whether nothing was read yet, and
`blanks` spaces or `ends` line ends stand in front of it. -/
def singleFrom (indent : Nat) (mayBreak first : Bool) (blanks ends : Nat) (o : Output) :
    List Char → Output
  | [] => (o.put (List.replicate blanks ' ')).lineEnds indent ends
  | c :: cs =>
    if c == ' ' then
      singleFrom indent mayBreak first (blanks + 1) 0 (o.lineEnds indent ends) cs
    else
      let o := o.spaces indent blanks (mayBreak && !first)
      if c == '\n' then singleFrom indent mayBreak false 0 (ends + 1) o cs
      else
        let o := o.lineEnds indent ends
        singleFrom indent mayBreak false 0 0 (o.put (if c == '\'' then [c, c] else [c])) cs

/-- Writes a text in single quotes. -/
def single (o : Output) (indent : Nat) (mayBreak : Bool) (cs : List Char) : Output :=
  (singleFrom indent mayBreak true 0 0 (o.mark ['\''] true) cs).mark ['\''] false

/-! ### Double-quoted texts -/

/-- The letter of a short escape. -/
def shortEscape? (c : Char) : Option Char :=
  [('\x00', '0'), ('\x07', 'a'), ('\x08', 'b'), ('\t', 't'), ('\n', 'n'), ('\x0b', 'v'),
    ('\x0c', 'f'), ('\r', 'r'), ('\x1b', 'e'), ('"', '"'), ('\\', '\\'), ('\u0085', 'N'),
    ('\u00a0', '_'), ('\u2028', 'L'), ('\u2029', 'P')].lookup c

/-- A code point in at least `count` upper-case hexadecimal digits. -/
def upperHex (count n : Nat) : List Char :=
  (Text.hexDigits count n).map Char.toUpper

/-- The escape of a code point. -/
def escape (n : Nat) : List Char :=
  match if n.isValidChar then shortEscape? (Char.ofNat n) else none with
  | some letter => ['\\', letter]
  | none =>
    if n ≤ 0xFF then '\\' :: 'x' :: upperHex 2 n
    else if n ≤ 0xFFFF then '\\' :: 'u' :: upperHex 4 n
    else '\\' :: 'U' :: upperHex 8 n

/-- Breaks the line within double quotes: a backslash ends it, and another one guards a space at the
start of the next. -/
def breakQuoted (o : Output) (indent : Nat) (next : Option Nat) : Output :=
  let o := (o.put ['\\']).breakText indent
  if next == some 0x20 then o.put ['\\'] else o

/-- Writes the rest of a double-quoted text; `pending` are characters not written yet, last
first. -/
def doubleFrom (indent : Nat) (mayBreak first : Bool) (pending : List Char) (o : Output) :
    List Nat → Output
  | [] => o.put pending.reverse
  | n :: ns =>
    let inside := mayBreak && !first && !ns.isEmpty
    let c := Char.ofNat n
    if c == '"' || c == '\\' || !(' ' ≤ c && c ≤ '~') then
      let o := (o.put pending.reverse).put (escape n)
      let o := if inside && width + 1 < o.column then o.breakQuoted indent ns.head? else o
      doubleFrom indent mayBreak false [] o ns
    else if inside && (c == ' ' || pending.isEmpty) && width < o.column + pending.length then
      let o := (o.put pending.reverse).breakQuoted indent (some n)
      doubleFrom indent mayBreak false [c] o ns
    else doubleFrom indent mayBreak false (c :: pending) o ns

/-- Writes a text of code points in double quotes. -/
def double (o : Output) (indent : Nat) (mayBreak : Bool) (points : List Nat) : Output :=
  (doubleFrom indent mayBreak true [] (o.mark ['"'] true) points).mark ['"'] false

end Output

/-! ### Nodes -/

/-- The name of a number, if it is reached twice; `repeated` are the numbers that are, in order. -/
def nameOf? (repeated : List Nat) (id : Nat) : Option (List Char) :=
  (repeated.idxOf? id).map fun i =>
    let digits := Text.natDigits (i + 1)
    'i' :: 'd' :: List.replicate (3 - digits.length) '0' ++ digits

/-- Writes the name of a node, if it has one. -/
def putName (o : Output) (repeated : List Nat) (id : Option Nat) : Output :=
  match id.bind (nameOf? repeated) with
  | some name => o.mark ('&' :: name) true
  | none => o

/-- Writes a scalar; it may run over lines, indented by `indent`, unless it is a key. -/
def putScalar (o : Output) (indent : Nat) (tag : Tag) (points : List Nat) (isKey : Bool) :
    Output :=
  let cs := Text.charsOfPoints points
  let form := formOf tag cs isKey
  let o := if form == .plain || tag == .text then o else o.mark tag.shorthand.toList true
  match form with
  | .plain => o.plain indent (!isKey) cs
  | .single => o.single indent (!isKey) cs
  | .double => o.double indent (!isKey) points

/-- The longest key that is written without a question mark. -/
def maxKeyLength : Nat := 127

/-- Whether a key is short enough, and of one line, to be written without a question mark. -/
def isSimpleKey (repeated : List Nat) : Flow → Bool
  | .scalar id tag points =>
    let name := (id.bind (nameOf? repeated)).getD []
    !points.isEmpty && !(Text.charsOfPoints points).any isLineEnd
      && name.length + tag.shorthand.length + points.length ≤ maxKeyLength
  | .again _ => true
  | _ => false

mutual

/-- Writes a node; `indent` is the indentation of what it holds. -/
def write (repeated : List Nat) (indent : Nat) (isKey : Bool) (o : Output) : Flow → Output
  | .again id => o.mark ('*' :: (nameOf? repeated id).getD []) true
  | .scalar id tag points => putScalar (putName o repeated id) indent tag points isKey
  | .sequence id items =>
    let o := (putName o repeated id).opening '['
    (writeItems repeated indent true o items).mark [']'] false
  | .mapping id isSet entries =>
    let o := putName o repeated id
    let o := if isSet then o.mark Tag.set.shorthand.toList true else o
    (writeEntries repeated indent true (o.opening '\x7b') entries).mark ['\x7d'] false

/-- Writes the items of a sequence. -/
def writeItems (repeated : List Nat) (indent : Nat) (first : Bool) (o : Output) :
    List Flow → Output
  | [] => o
  | f :: fs =>
    let o := (if first then o else o.mark [','] false).breakIfLong indent
    writeItems repeated indent false (write repeated (indent + 2) false o f) fs

/-- Writes the entries of a map. -/
def writeEntries (repeated : List Nat) (indent : Nat) (first : Bool) (o : Output) :
    List (Flow × Flow) → Output
  | [] => o
  | (k, v) :: es =>
    let o := (if first then o else o.mark [','] false).breakIfLong indent
    let o :=
      if isSimpleKey repeated k then
        (write repeated (indent + 2) true o k).mark [':'] false
      else
        ((write repeated (indent + 2) false (o.mark ['?'] true) k).breakIfLong indent).mark
          [':'] true
    writeEntries repeated indent false (write repeated (indent + 2) false o v) es

end

/-- How many values may stand inside each other in a written value. -/
def maxHeight : Nat := 329

/-- The flow text of a value. -/
def text (flow : Flow) : String :=
  let o := write (repeats flow).eraseDups 2 false {} flow
  Text.trimString (String.ofList o.chars.reverse)

end Flow

end MarkdownSections.Yaml
