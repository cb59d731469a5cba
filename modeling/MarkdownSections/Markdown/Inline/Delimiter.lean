import MarkdownSections.Markdown.Basic
import MarkdownSections.Text.CharacterClass

/-!
# Emphasis and strikethrough

Runs of asterisks, underscores and tildes are read as pieces of text first. Each mark remembers
whether it can open or close a span; `matchMarks` pairs closing marks with opening ones, nearest
first, and `resolve` turns the pairs into tokens. Marks that stay alone remain text.
-/

set_option autoImplicit false

namespace MarkdownSections.Markdown.Inline

/-! ## Runs -/

/-- Whether a run can open and close a span, by the characters in front of it and behind it. A run
inside a word can do neither, unless its mark may split words. -/
def flanking (splitsWords : Bool) (before after : Char) : Bool × Bool :=
  let blankBefore := isTextBlank before
  let blankAfter := isTextBlank after
  let markBefore := Text.isPunctuation before
  let markAfter := Text.isPunctuation after
  let left := !(blankAfter || (markAfter && !(blankBefore || markBefore)))
  let right := !(blankBefore || (markBefore && !(blankAfter || markAfter)))
  (left && (splitsWords || !right || markBefore), right && (splitsWords || !left || markAfter))

/-- One mark: how many characters it is, how long its run is (zero where the rule of three does not
apply), which piece of text it is, whether it can open or close, and the mark that closes it. -/
structure Mark where
  char : Char
  width : Nat
  length : Nat
  piece : Nat
  opens : Bool
  closes : Bool
  partner : Option Nat := none
deriving Inhabited, Repr

/-! ## Matching -/

/-- The state of matching: the marks, how far a search jumps from each mark back over finished
spans, how far back searches need to go for each kind of closing mark, where the current run
starts, and the piece of the last mark seen. -/
structure Matching where
  marks : Array Mark
  jumps : Array Nat := #[]
  bottoms : List ((Char × Nat) × Int) := []
  header : Nat := 0
  lastPiece : Int := -2

/-- The rule of three: marks that can both open and close do not match if the lengths of their runs
add up to a multiple of three, unless both are multiples of three. -/
def breaksRuleOfThree (opener closer : Mark) : Bool :=
  (opener.closes || closer.opens) && (opener.length + closer.length) % 3 == 0
    && !(opener.length % 3 == 0 && closer.length % 3 == 0)

/-- The opening mark for a closing one, searched back from mark `i` to behind mark `bottom`. -/
def findOpener (m : Matching) (closer : Mark) (bottom : Int) : Nat → Int → Option Nat
  | 0, _ => none
  | fuel + 1, i =>
    if i ≤ bottom then none
    else
      let opener := m.marks.getD i.toNat default
      if opener.char = closer.char && opener.opens && opener.partner.isNone
          && !breaksRuleOfThree opener closer then
        some i.toNat
      else findOpener m closer bottom fuel (i - (m.jumps.getD i.toNat 0 : Int) - 1)

/-- Pairs two marks and lets later searches jump over what stands between them. -/
def pairMarks (m : Matching) (opener closer : Nat) : Matching :=
  let first := m.marks.getD opener default
  let second := m.marks.getD closer default
  let jump :=
    if 0 < opener && !(m.marks.getD (opener - 1) default).opens then
      m.jumps.getD (opener - 1) 0 + 1
    else 0
  { m with
    marks :=
      (m.marks.setIfInBounds closer { second with opens := false }).setIfInBounds opener
        { first with partner := some closer, closes := false }
    jumps := (m.jumps.setIfInBounds closer (closer - opener + jump)).setIfInBounds opener jump
    lastPiece := -2 }

/-- Looks at mark `i`: a closing mark is paired with an opening one, or the search is noted as
vain. -/
def matchStep (m : Matching) (i : Nat) : Matching :=
  let closer := m.marks.getD i default
  let header :=
    if (m.marks.getD m.header default).char != closer.char
        || m.lastPiece != (closer.piece : Int) - 1
    then i else m.header
  let m := { m with jumps := m.jumps.push 0, header, lastPiece := closer.piece }
  if !closer.closes then m
  else
    let kind := (closer.char, (if closer.opens then 3 else 0) + closer.length % 3)
    let start := (header : Int) - (m.jumps.getD header 0 : Int) - 1
    match findOpener m closer ((m.bottoms.lookup kind).getD (-1)) (m.marks.size + 1) start with
    | some opener => pairMarks m opener i
    | none =>
      if start = -1 then m
      else { m with bottoms := (kind, start) :: m.bottoms.filter (·.1 != kind) }

/-- Pairs closing marks with opening ones. -/
def matchMarks (marks : Array Mark) : Array Mark :=
  ((List.range marks.size).foldl matchStep { marks }).marks

/-! ## Tokens -/

/-- A token of running text. -/
def textToken (cs : List Char) : Token :=
  { type := "text", content := String.ofList cs }

/-- The opening or closing token of a span. -/
def spanToken (name tag : String) (opening : Bool) : List Token :=
  [{ type := name ++ (if opening then "_open" else "_close"), tag,
     nesting := if opening then 1 else -1 }]

/-- Whether a piece is a text. -/
def isTextPiece (content : String) : List Token → Bool
  | [t] => t.type == "text" && t.content == content
  | _ => false

/-- Turns one pair of tildes into the tokens of a strikethrough, and notes a lone tilde in front of
its end. Runs of different lengths make no strikethrough. -/
def strikePair (marks : Array Mark) (state : Array (List Token) × List Nat) (m : Mark) :
    Array (List Token) × List Nat :=
  match m.char == '~', m.partner with
  | true, some partner =>
    let (pieces, lone) := state
    let closer := marks.getD partner default
    let last := closer.piece
    if closer.width != m.width then state
    else
      let pieces := (pieces.setIfInBounds m.piece (spanToken "s" "s" true)).setIfInBounds last
        (spanToken "s" "s" false)
      (pieces,
        if m.width = 2 && isTextPiece "~" (pieces.getD (last - 1) []) then (last - 1) :: lone
        else lone)
  | _, _ => state

/-- The last of the strikethrough ends that follow piece `i` directly. -/
def lastStrikeEnd (pieces : Array (List Token)) (i : Nat) : Nat → Nat
  | 0 => i
  | fuel + 1 =>
    match pieces.getD (i + 1) [] with
    | [t] => if t.type == "s_close" then lastStrikeEnd pieces (i + 1) fuel else i
    | _ => i

/-- Moves a lone tilde behind the strikethrough ends that follow it. -/
def moveLone (pieces : Array (List Token)) (i : Nat) : Array (List Token) :=
  let j := lastStrikeEnd pieces i pieces.size
  (pieces.setIfInBounds i (pieces.getD j [])).setIfInBounds j (pieces.getD i [])

/-- Turns pairs of tildes into tokens. -/
def strike (marks : Array Mark) (pieces : Array (List Token)) : Array (List Token) :=
  let (pieces, lone) := marks.foldl (strikePair marks) (pieces, [])
  lone.foldl moveLone pieces

/-- Whether mark `i`, paired with mark `partner`, makes a strong span together with the pair of
marks directly outside it. -/
def isStrong (marks : Array Mark) (i partner : Nat) : Bool :=
  if i = 0 then false
  else
    let inner := marks.getD i default
    let outer := marks.getD (i - 1) default
    outer.partner == some (partner + 1) && outer.char == inner.char
      && outer.piece + 1 == inner.piece
      && (marks.getD (partner + 1) default).piece == (marks.getD partner default).piece + 1

/-- Turns pairs of asterisks and underscores into tokens, from mark `i - 1` back to the first. The
marks outside a strong span become empty texts. -/
def emphasize (marks : Array Mark) : Nat → Nat → Array (List Token) → Array (List Token)
  | 0, _, pieces => pieces
  | _, 0, pieces => pieces
  | fuel + 1, i + 1, pieces =>
    let m := marks.getD i default
    match m.char == '_' || m.char == '*', m.partner with
    | true, some partner =>
      let strong := isStrong marks i partner
      let name := if strong then "strong" else "em"
      let last := (marks.getD partner default).piece
      let pieces := (pieces.setIfInBounds m.piece (spanToken name name true)).setIfInBounds last
        (spanToken name name false)
      if strong then
        emphasize marks fuel (i - 1)
          ((pieces.setIfInBounds (m.piece - 1) [textToken []]).setIfInBounds (last + 1)
            [textToken []])
      else emphasize marks fuel i pieces
    | _, _ => emphasize marks fuel i pieces

/-- Merges neighbouring texts. -/
def mergeTexts : List Token → List Token
  | [] => []
  | t :: ts =>
    match mergeTexts ts with
    | next :: rest =>
      if t.type == "text" && next.type == "text" then
        { next with content := t.content ++ next.content } :: rest
      else t :: next :: rest
    | [] => [t]

/-- The tokens of pieces and the marks among them. -/
def resolve (pieces : Array (List Token)) (marks : Array Mark) : List Token :=
  let marks := matchMarks marks
  let pieces := emphasize marks marks.size marks.size (strike marks pieces)
  mergeTexts pieces.toList.flatten

end MarkdownSections.Markdown.Inline
