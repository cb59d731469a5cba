import Mathlib.Data.List.SplitBy
import MarkdownSections.Proofs.Document.Plain
import MarkdownSections.Proofs.Text.Ink

/-!
# Code between backticks

A code block is written between fences of three backticks, whatever its lines are, and a code span
between one backtick, or two if its content has any. Fenced code is read line by line (`code?`): it
ends at the first line that closes the fence, as it does in a document
(`closesCode_eq_closesFence`). The content of a code block is read back exactly if it is free of
such lines, ends with one line feed and the language opens no other fence, and the delimiter of a
span stands in its content exactly if a run of two backticks does (`code?_render_iff`).
-/

set_option autoImplicit false

namespace MarkdownSections.CodeFence

open Markdown

/-! ## Reading fenced code -/

/-- The lines of a text, without their ends. -/
def lines (cs : List Char) : List (List Char) :=
  (Text.endedLines (Text.unifyNewlines cs)).map List.dropLast

/-- How many spaces a line starts with. -/
def indent (line : List Char) : Nat :=
  (line.takeWhile (· == ' ')).length

/-- How many backticks follow these spaces. -/
def width (line : List Char) : Nat :=
  ((line.dropWhile (· == ' ')).takeWhile (· == '\x60')).length

/-- What follows these backticks. -/
def behindTicks (line : List Char) : List Char :=
  (line.dropWhile (· == ' ')).dropWhile (· == '\x60')

/-- Whether a line holds nothing but spaces and tabs. -/
def isBlankLine (line : List Char) : Bool :=
  line.all fun c => c == ' ' || c == '\t'

/-- Whether a line opens a code block. -/
def opensCode (line : List Char) : Bool :=
  decide (indent line ≤ 3) && decide (3 ≤ width line) && !(behindTicks line).contains '\x60'

/-- Whether a line closes a code block that was opened with `w` backticks. -/
def closesCode (w : Nat) (line : List Char) : Bool :=
  decide (indent line ≤ 3) && decide (w ≤ width line) && isBlankLine (behindTicks line)

/-- The content of a code block, if only blank lines follow the line that closes it. The opening
line has `w` backticks behind `n` spaces, and as many spaces are taken from each line. -/
def contentFrom? (w n : Nat) (ls : List (List Char)) : Option (List Char) :=
  let inside := ls.takeWhile (!closesCode w ·)
  let behind := (ls.dropWhile (!closesCode w ·)).drop 1
  if behind.all isBlankLine then
    some (joinLines (inside.map fun line => line.drop (min n (indent line))))
  else none

/-- The content of a text that is one code block. -/
def code? (cs : List Char) : Option (List Char) :=
  match lines cs with
  | [] => none
  | first :: rest =>
    if opensCode first then contentFrom? (width first) (indent first) rest else none

/-! ## The rule of documents -/

theorem le_columnAfter (start : Nat) (blanks : List Char) : start ≤ columnAfter 0 start blanks := by
  induction blanks generalizing start with
  | nil => exact Nat.le_refl start
  | cons c blanks ih =>
      have hstep : start ≤ if c = '\t' then start + (4 - (start + 0) % 4) else start + 1 := by
        split
        · omega
        · omega
      exact Nat.le_trans hstep (ih _)

/-- The column behind spaces and whatever blanks follow. -/
theorem columnAfter_spaces (start k : Nat) (blanks : List Char) :
    columnAfter 0 start (List.replicate k ' ' ++ blanks) = columnAfter 0 (start + k) blanks := by
  induction k generalizing start with
  | zero => rfl
  | succ k ih =>
      have hnext : start + 1 + k = start + (k + 1) := by omega
      rw [List.replicate_succ, List.cons_append, ← hnext, ← ih]
      rfl

theorem four_le_columnAfter_tab (start : Nat) (blanks : List Char) :
    4 ≤ columnAfter 0 start ('\t' :: blanks) := by
  have hstop : 4 ≤ start + (4 - (start + 0) % 4) := by omega
  exact Nat.le_trans hstop (le_columnAfter _ blanks)

theorem drop_length_takeWhile (p : Char → Bool) (cs : List Char) :
    cs.drop (cs.takeWhile p).length = cs.dropWhile p := by
  have hsplit := List.takeWhile_append_dropWhile (p := p) (l := cs)
  calc cs.drop (cs.takeWhile p).length
      = (cs.takeWhile p ++ cs.dropWhile p).drop (cs.takeWhile p).length := by rw [hsplit]
    _ = cs.dropWhile p := List.drop_left

/-- A line is its spaces and a rest, which starts with a tab or with no blank. -/
theorem indented_cases (line : List Char) :
    line = List.replicate (indent line) ' ' ++ line.dropWhile (· == ' ') ∧
      ((∃ rest, line.dropWhile (· == ' ') = '\t' :: rest) ∨
        (line.dropWhile (· == ' ')).takeWhile isIndentation = []) := by
  have hspaces : line.takeWhile (· == ' ') = List.replicate (indent line) ' ' :=
    List.eq_replicate_iff.mpr ⟨rfl, fun c hc => by simpa using List.mem_takeWhile_imp hc⟩
  refine ⟨by rw [← hspaces, List.takeWhile_append_dropWhile], ?_⟩
  have hhead := List.head?_dropWhile_not (· == ' ') line
  cases htail : line.dropWhile (· == ' ') with
  | nil => exact Or.inr rfl
  | cons c rest =>
      rw [htail] at hhead
      have hspace : c ≠ ' ' := by simpa using hhead
      by_cases htab : c = '\t'
      · exact Or.inl ⟨rest, by rw [htab]⟩
      · exact Or.inr (List.takeWhile_cons_of_neg (by simp [isIndentation, hspace, htab]))

theorem takeWhile_isIndentation (k : Nat) (tail : List Char) :
    (List.replicate k ' ' ++ tail).takeWhile isIndentation =
      List.replicate k ' ' ++ tail.takeWhile isIndentation :=
  List.takeWhile_append_of_pos (by simp [isIndentation])

theorem isCode_endedLine (ls : List Line) (k : Nat) (tail : List Char) :
    (Block.topContext ls).isCode (endedLine (List.replicate k ' ' ++ tail)) =
      decide (4 ≤ columnAfter 0 k (tail.takeWhile isIndentation)) := by
  have hindent : (endedLine (List.replicate k ' ' ++ tail)).indent =
      columnAfter 0 k (tail.takeWhile isIndentation) := by
    change (columnAfter 0 0 ((List.replicate k ' ' ++ tail).takeWhile isIndentation) : Int) = _
    rw [takeWhile_isIndentation, columnAfter_spaces, Nat.zero_add]
  have hcore : (Block.topContext ls).preset.core = true := rfl
  have hzero : (Block.topContext ls).indent = 0 := rfl
  rw [Block.Context.isCode, hindent, hcore, hzero, Bool.true_and, decide_eq_decide]
  omega

theorem content_endedLine {tail : List Char} (h : tail.takeWhile isIndentation = []) (k : Nat) :
    (endedLine (List.replicate k ' ' ++ tail)).content = tail := by
  have hshift : (endedLine (List.replicate k ' ' ++ tail)).shift = k := by
    change ((List.replicate k ' ' ++ tail).takeWhile isIndentation).length = k
    rw [takeWhile_isIndentation, h, List.append_nil, List.length_replicate]
  rw [Line.content, hshift]
  exact List.drop_left' List.length_replicate

/-- A line closes a code block by the rule by which documents are read. -/
theorem closesCode_eq_closesFence (ls : List Line) {w : Nat} (hw : 0 < w) (info line : List Char) :
    closesCode w line =
      Block.closesFence (Block.topContext ls) ⟨'\x60', w, info⟩ (endedLine line) := by
  obtain ⟨hline, hcases⟩ := indented_cases line
  rw [closesCode, width, behindTicks]
  generalize indent line = k at hline ⊢
  generalize line.dropWhile (· == ' ') = tail at hline hcases ⊢
  rw [hline, Block.closesFence, isCode_endedLine]
  rcases hcases with ⟨rest, rfl⟩ | hnone
  · -- a tab reaches the column where a line is code
    have hfar := four_le_columnAfter_tab k (rest.takeWhile isIndentation)
    have htab : ('\t' :: rest).takeWhile isIndentation =
        '\t' :: rest.takeWhile isIndentation := rfl
    rw [htab, decide_eq_true hfar]
    simp [Nat.ne_of_gt hw]
  · have hfour : (!decide (4 ≤ columnAfter 0 k [])) = decide (k ≤ 3) := by
      rw [Bool.eq_iff_iff, Bool.not_eq_true', decide_eq_false_iff_not, decide_eq_true_eq]
      exact Nat.not_le.trans Nat.lt_succ_iff
    rw [hnone, hfour, content_endedLine hnone, drop_length_takeWhile]
    rfl

/-! ## Lines -/

theorem lines_joinLines {ls : List (List Char)} (hfeed : ∀ l ∈ ls, '\n' ∉ l)
    (hreturn : '\r' ∉ joinLines ls) : lines (joinLines ls) = ls := by
  rw [lines, Text.unifyNewlines_of_notMem hreturn]
  clear hreturn
  induction ls with
  | nil => rfl
  | cons l ls ih =>
      obtain ⟨hl, hrest⟩ := List.forall_mem_cons.mp hfeed
      rw [joinLines_cons, Text.endedLines_line hl, List.map_cons, ih hrest, List.dropLast_concat]

/-- No line holds a line feed or a carriage return. -/
theorem notMem_of_mem_lines {cs line : List Char} (h : line ∈ lines cs) :
    '\n' ∉ line ∧ '\r' ∉ line := by
  obtain ⟨ended, hended, rfl⟩ := List.mem_map.mp h
  obtain ⟨front, rfl, hfeed, hreturn⟩ :=
    Text.isEndedLine_of_mem (Text.return_notMem_unifyNewlines cs) hended
  rw [List.dropLast_concat]
  exact ⟨hfeed, hreturn⟩

/-- Content is made of the lines it stands in. -/
theorem mem_of_contentFrom? {w n : Nat} {ls : List (List Char)} {content : List Char}
    (h : contentFrom? w n ls = some content) {c : Char} (hc : c ∈ content) :
    c = '\n' ∨ ∃ l ∈ ls, c ∈ l := by
  simp only [contentFrom?, Option.ite_none_right_eq_some, Option.some.injEq] at h
  obtain ⟨-, rfl⟩ := h
  rw [joinLines, List.mem_flatMap] at hc
  obtain ⟨line, hline, hc⟩ := hc
  obtain ⟨l, hl, rfl⟩ := List.mem_map.mp hline
  rcases List.mem_append.mp hc with hc | hc
  · exact Or.inr ⟨l, (List.takeWhile_sublist _).mem hl, List.mem_of_mem_drop hc⟩
  · exact Or.inl (List.mem_singleton.mp hc)

theorem return_notMem_of_code? {cs content : List Char} (h : code? cs = some content) :
    '\r' ∉ content := by
  intro hmem
  unfold code? at h
  split at h
  · cases h
  · next first rest hlines =>
      rw [Option.ite_none_right_eq_some] at h
      rcases mem_of_contentFrom? h.2 hmem with hfeed | ⟨l, hl, hc⟩
      · exact absurd hfeed (by decide)
      · exact (notMem_of_mem_lines (hlines ▸ List.mem_cons_of_mem first hl)).2 hc

/-! ## Content behind an opening line -/

variable {w : Nat}

theorem contentFrom?_cons {l : List Char} (h : closesCode w l = false) (ls : List (List Char)) :
    contentFrom? w 0 (l :: ls) = (contentFrom? w 0 ls).map (l ++ '\n' :: ·) := by
  unfold contentFrom?
  rw [List.takeWhile_cons_of_pos (by simp [h]), List.dropWhile_cons_of_pos (by simp [h])]
  simp only
  split
  · simp
  · rfl

/-- Lines in front of a line that is not blank are content as long as none of them closes the block;
one that does leaves that line behind the block. -/
theorem contentFrom?_append {front rest : List (List Char)}
    (hrest : ∃ l ∈ rest, isBlankLine l = false) :
    contentFrom? w 0 (front ++ rest) =
      if front.all (!closesCode w ·) then (contentFrom? w 0 rest).map (joinLines front ++ ·)
      else none := by
  -- as long as lines behind are not all blank, each line in front is content or closes the fence
  -- too early
  induction front with
  | nil => simp
  | cons l front ih =>
      cases hcloses : closesCode w l with
      | false =>
          rw [List.cons_append, contentFrom?_cons hcloses, ih, List.all_cons, hcloses]
          simp only [Bool.not_false, Bool.true_and]
          split
          · simp [Option.map_map, Function.comp_def]
          · rfl
      | true =>
          have hbehind : (front ++ rest).all isBlankLine = false := by
            obtain ⟨x, hx, hblank⟩ := hrest
            exact List.all_eq_false.mpr ⟨x, List.mem_append_right front hx, by simp [hblank]⟩
          unfold contentFrom?
          rw [List.cons_append, List.dropWhile_cons_of_neg (by simp [hcloses])]
          simp [hbehind, hcloses]

/-! ## Written code -/

/-- Three backticks. -/
def ticks : List Char :=
  ['\x60', '\x60', '\x60']

theorem codeText_eq_joinLines (language code : List Char) :
    (codeText (String.ofList language) (String.ofList code)).toList =
      joinLines ((ticks ++ language) :: (textLines code ++ [ticks, []])) := by
  simp [codeText, ticks, joinLines_append, joinLines_textLines]

/-- The first line that is written has as many backticks more as the language starts with. -/
theorem spec_openingLine (language : List Char) :
    indent (ticks ++ language) = 0 ∧
      width (ticks ++ language) = (language.takeWhile (· == '\x60')).length + 3 ∧
      behindTicks (ticks ++ language) = language.dropWhile (· == '\x60') :=
  ⟨rfl, rfl, rfl⟩

/-- A closing line and an empty one behind it end the block, or are content of a wider one. -/
theorem contentFrom?_closing (k : Nat) :
    contentFrom? (k + 3) 0 [ticks, []] =
      if k = 0 then some [] else some (ticks ++ ['\n', '\n']) := by
  cases k with
  | zero => decide
  | succ k =>
      have hticks : closesCode (k + 1 + 3) ticks = false := by
        simp [closesCode, show width ticks = 3 from rfl]
      have hempty : closesCode (k + 1 + 3) [] = false := by
        simp [closesCode, show width [] = 0 from rfl]
      rw [contentFrom?_cons hticks, contentFrom?_cons hempty]
      rfl

theorem code?_codeText {language code : List Char} (hfeed : '\n' ∉ language)
    (hreturn : '\r' ∉ language) (hcode : '\r' ∉ code) :
    code? (codeText (String.ofList language) (String.ofList code)).toList =
      if '\x60' ∈ language.dropWhile (· == '\x60') then none
      else contentFrom? ((language.takeWhile (· == '\x60')).length + 3) 0
        (textLines code ++ [ticks, []]) := by
  have hno : '\r' ∉ (codeText (String.ofList language) (String.ofList code)).toList := by
    simp [codeText, hreturn, hcode]
  have hlines : lines (codeText (String.ofList language) (String.ofList code)).toList =
      (ticks ++ language) :: (textLines code ++ [ticks, []]) := by
    rw [codeText_eq_joinLines] at hno ⊢
    refine lines_joinLines (fun l hl => ?_) hno
    simp only [List.mem_cons, List.mem_append, List.not_mem_nil, or_false] at hl
    rcases hl with rfl | hl | rfl | rfl
    · simpa [ticks] using hfeed
    · exact notMem_of_mem_textLines hl
    · decide
    · decide
  -- the fence is as wide as its ticks and those at the start of the language together
  obtain ⟨hindent, hwidth, hbehind⟩ := spec_openingLine language
  have hopens : opensCode (ticks ++ language) =
      !(language.dropWhile (· == '\x60')).contains '\x60' := by
    rw [opensCode, hindent, hwidth, hbehind]
    simp
  rw [code?, hlines]
  simp only [hopens, hindent, hwidth]
  by_cases hmem : '\x60' ∈ language.dropWhile (· == '\x60')
  · simp [hmem]
  · simp [hmem]

/-- Behind a language without backticks the fence is closed by its second line, unless a line of the
code closes it before. -/
theorem code?_codeText_of_notMem {language code : List Char} (hfeed : '\n' ∉ language)
    (hreturn : '\r' ∉ language) (hcode : '\r' ∉ code) (htick : '\x60' ∉ language) :
    code? (codeText (String.ofList language) (String.ofList code)).toList =
      if (textLines code).all (!closesCode 3 ·) then some (code ++ ['\n']) else none := by
  have hdrop : '\x60' ∉ language.dropWhile (· == '\x60') := fun hmem =>
    htick ((List.dropWhile_sublist _).mem hmem)
  have htake : language.takeWhile (· == '\x60') = [] := by
    rw [List.takeWhile_eq_nil_iff]
    intro hpos hfirst
    exact htick (beq_iff_eq.mp hfirst ▸ List.getElem_mem hpos)
  rw [code?_codeText hfeed hreturn hcode, if_neg hdrop, htake, List.length_nil,
    contentFrom?_append ⟨ticks, by simp, rfl⟩, contentFrom?_closing, joinLines_textLines]
  simp

/-- A language with a backtick opens no fence, or a wider one, which the second line does not close:
that line is content, or left behind. -/
theorem code?_codeText_of_mem {language code : List Char} (hfeed : '\n' ∉ language)
    (hreturn : '\r' ∉ language) (hcode : '\r' ∉ code) (htick : '\x60' ∈ language)
    {feeds : List Char} (hfeeds : ∀ c ∈ feeds, c = '\n') :
    code? (codeText (String.ofList language) (String.ofList code)).toList ≠
      some (code ++ feeds) := by
  rw [code?_codeText hfeed hreturn hcode, contentFrom?_append ⟨ticks, by simp, rfl⟩,
    contentFrom?_closing, joinLines_textLines]
  split
  · exact Option.some_ne_none _ ∘ Eq.symm
  · next hdrop =>
      -- a tick in the language stands at its start, so the fence is wider than its closing line
      have hwide : (language.takeWhile (· == '\x60')).length ≠ 0 := by
        rw [Ne, List.length_eq_zero_iff]
        intro hnil
        have hsplit := List.takeWhile_append_dropWhile (p := (· == '\x60')) (l := language)
        rw [hnil, List.nil_append] at hsplit
        exact hdrop (hsplit.symm ▸ htick)
      rw [if_neg hwide]
      split
      · intro heq
        have hcontent : code ++ ['\n'] ++ (ticks ++ ['\n', '\n']) = code ++ feeds := by
          simpa using heq
        rw [List.append_assoc, List.append_cancel_left_eq] at hcontent
        have htick' : '\x60' ∈ feeds := by simp [← hcontent, ticks]
        exact absurd (hfeeds _ htick') (by decide)
      · exact Option.some_ne_none _ ∘ Eq.symm

/-- Whether code is written so that it is read back: its language has no backtick, and its content
ends with one line feed and holds no carriage return and no line that closes a fence of three. -/
def isReadBack (language content : List Char) : Bool :=
  !language.contains '\x60' && !content.contains '\r' &&
    Text.dropEndWhile (· == '\n') content ++ ['\n'] == content &&
    (textLines (Text.dropEndWhile (· == '\n') content)).all (!closesCode 3 ·)

theorem code?_codeText_eq_some_iff {language : List Char} (hfeed : '\n' ∉ language)
    (hreturn : '\r' ∉ language) (content : List Char) :
    code? (codeText (String.ofList language)
        (String.ofList (Text.dropEndWhile (· == '\n') content))).toList = some content ↔
      isReadBack language content = true := by
  obtain ⟨feeds, hcontent, hfeeds⟩ := Text.exists_dropEndWhile_append (· == '\n') content
  simp only [beq_iff_eq] at hfeeds
  unfold isReadBack
  generalize Text.dropEndWhile (· == '\n') content = code at hcontent ⊢
  simp only [Bool.and_eq_true, Bool.not_eq_true', List.contains_eq_mem, decide_eq_false_iff_not,
    beq_iff_eq]
  -- what is read back can hold neither a return nor more than one line feed at its end
  constructor
  · intro hread
    have hcontentReturn : '\r' ∉ content := return_notMem_of_code? hread
    have hcode : '\r' ∉ code := fun hmem =>
      hcontentReturn (hcontent ▸ List.mem_append_left feeds hmem)
    have htick : '\x60' ∉ language := fun hmem =>
      code?_codeText_of_mem hfeed hreturn hcode hmem hfeeds (hcontent ▸ hread)
    rw [code?_codeText_of_notMem hfeed hreturn hcode htick,
      Option.ite_none_right_eq_some, Option.some.injEq] at hread
    exact ⟨⟨⟨htick, hcontentReturn⟩, hread.2⟩, hread.1⟩
  · rintro ⟨⟨⟨htick, hcontentReturn⟩, hone⟩, hcloses⟩
    have hcode : '\r' ∉ code := fun hmem =>
      hcontentReturn (hone ▸ List.mem_append_left ['\n'] hmem)
    rw [code?_codeText_of_notMem hfeed hreturn hcode htick, if_pos hcloses, hone]

theorem render_codeNode (d : Document) (codec : Codec) {n : Node} (order : Int)
    (h : n.type = "fence" ∨ n.type = "code_block") :
    Element.render codec { d.blockElement codec n with order := order } =
      .ok (codeText n.language (Text.dropFinalNewlines n.content)) := by
  have helement : d.blockElement codec n = codeElement n := by
    rcases h with h | h
    · simp [Document.blockElement, h, codeElement]
    · simp [Document.blockElement, h, codeElement]
  have htype : (codeElement n).type = .code := Element.type_of_tag rfl
  have hblock : (codeElement n).isInline = false := rfl
  rw [Element.render_withOrder, helement,
    Element.render_of_plain (Element.payload_of_text rfl codec), Element.renderPayload, hblock,
    if_neg Bool.false_ne_true, Element.blockText]
  simp only [htype, attr_language]
  rfl

/-! ## Code spans -/

/-- A code span: content between `w` backticks, with a space on both sides or none. -/
def IsSpan (w : Nat) (content text : List Char) : Prop :=
  ∃ padding ∈ [[], [' ']],
    text = List.replicate w '\x60' ++ padding ++ content ++ padding ++ List.replicate w '\x60'

/-- The lengths of the runs of backticks in a text. -/
def tickRuns (cs : List Char) : List Nat :=
  ((cs.splitBy fun a b => (a == '\x60') == (b == '\x60')).filter
    fun run => run.head? == some '\x60').map List.length

theorem tickRuns_eq_nil {cs : List Char} (h : '\x60' ∉ cs) : tickRuns cs = [] := by
  rw [tickRuns, List.map_eq_nil_iff, List.filter_eq_nil_iff]
  intro run hrun hhead
  have hmem : '\x60' ∈ run := List.mem_of_head? (beq_iff_eq.mp hhead)
  rw [← List.flatten_splitBy (fun a b => (a == '\x60') == (b == '\x60')) cs] at h
  exact h (List.mem_flatten_of_mem hrun hmem)

theorem codeSpan_of_mem {content : String} (h : '\x60' ∈ content.toList) :
    Element.codeSpan content = "`` " ++ content ++ " ``" := by
  simp [Element.codeSpan, Element.wrapped, h]

theorem codeSpan_of_notMem {content : String} (h : '\x60' ∉ content.toList) :
    Element.codeSpan content = "`" ++ content ++ "`" := by
  simp [Element.codeSpan, Element.wrapped, h]

/-- A span has one backtick on both sides, or two if its content has any. -/
theorem codeSpan_spec (content : String) :
    ∃ w, IsSpan w content.toList (Element.codeSpan content).toList ∧
      (w ∈ tickRuns content.toList ↔ 2 ∈ tickRuns content.toList) := by
  by_cases h : '\x60' ∈ content.toList
  · refine ⟨2, ⟨[' '], by simp, ?_⟩, Iff.rfl⟩
    rw [codeSpan_of_mem h]
    simp
  · refine ⟨1, ⟨[], by simp, ?_⟩, by simp [tickRuns_eq_nil h]⟩
    rw [codeSpan_of_notMem h]
    simp

theorem render_codeSpan (codec : Codec) {e : Element} (hinline : e.isInline = true)
    (htype : e.type = .code) : e.render codec = .ok (Element.codeSpan e.content) := by
  rw [Element.render_of_plain (Element.payload_of_isInline hinline codec), Element.renderPayload,
    if_pos hinline, Element.inlineText, htype]

/-- **Code is read back.** A code block is rendered as a text that is one code block with the same
content exactly if its content holds no carriage return and no line that closes a fence of three and
ends with one line feed, and its language has no backtick. The delimiter of a rendered code span is
as long as a run of backticks in its content exactly if there is a run of two. -/
theorem code?_render_iff (d : Document) (codec : Codec) (order : Int) :
    (∀ n : Node, n.type = "fence" ∨ n.type = "code_block" →
      '\n' ∉ n.language.toList → '\r' ∉ n.language.toList →
        ∃ text, Element.render codec { d.blockElement codec n with order := order } = .ok text ∧
          (code? text.toList = some n.content.toList ↔
            isReadBack n.language.toList n.content.toList = true)) ∧
    ∀ e : Element, e.isInline = true → e.type = .code →
      ∃ w text, e.render codec = .ok text ∧ IsSpan w e.content.toList text.toList ∧
        (w ∈ tickRuns e.content.toList ↔ 2 ∈ tickRuns e.content.toList) := by
  constructor
  · intro n htype hfeed hreturn
    refine ⟨_, render_codeNode d codec order htype, ?_⟩
    have hread := code?_codeText_eq_some_iff hfeed hreturn n.content.toList
    rwa [String.ofList_toList] at hread
  · intro e hinline htype
    obtain ⟨w, hspan, hruns⟩ := codeSpan_spec e.content
    exact ⟨w, _, render_codeSpan codec hinline htype, hspan, hruns⟩

/-- A block of code in tilde fences. -/
def listingNode (content : String) : Node :=
  { type := "fence", tag := "code", lines := some (0, content.toList.count '\n' + 2), content
    info := "sh" }

/-- A document of such a block. -/
def listingDocument (content : String) : Document :=
  { text := "~~~sh\n" ++ content ++ "~~~\n", body := "~~~sh\n" ++ content ++ "~~~\n"
    blocks := [listingNode content] }

/-- A code span. -/
def spanElement (content : String) : Element :=
  { kind := some .inline, elementType := ElementType.code.tag, content }

theorem code?_render_sample :
    ('\n' ∉ (listingNode "a\n").language.toList ∧ '\r' ∉ (listingNode "a\n").language.toList ∧
        (spanElement "a`b").isInline = true ∧ (spanElement "a`b").type = .code) ∧
      (∃ text, Element.render .lenient
            { (listingDocument "a\n").blockElement .lenient (listingNode "a\n") with order := 1 } =
          .ok text ∧ code? text.toList = some "a\n".toList) ∧
      ∃ w text, (spanElement "a`b").render .lenient = .ok text ∧
        IsSpan w "a`b".toList text.toList ∧ w ∉ tickRuns "a`b".toList := by
  have hfeed : '\n' ∉ (listingNode "a\n").language.toList := by decide
  have hreturn : '\r' ∉ (listingNode "a\n").language.toList := by decide
  have hinline : (spanElement "a`b").isInline = true := rfl
  have htype : (spanElement "a`b").type = .code := Element.type_of_tag rfl
  obtain ⟨hblocks, hspans⟩ := code?_render_iff (listingDocument "a\n") .lenient 1
  obtain ⟨text, hrender, hread⟩ := hblocks (listingNode "a\n") (Or.inl rfl) hfeed hreturn
  obtain ⟨w, text', hrender', hspan, hruns⟩ := hspans (spanElement "a`b") hinline htype
  refine ⟨⟨hfeed, hreturn, hinline, htype⟩, ⟨text, hrender, hread.mpr (by decide)⟩,
    w, text', hrender', hspan, fun hmem => absurd (hruns.mp hmem) (by decide)⟩

/-- Code that holds a fence ends there, an empty line at the end of code is lost, and two backticks
in a code span end it. -/
theorem not_code?_render :
    let render (content : String) :=
      Element.render .lenient
        { (listingDocument content).blockElement .lenient (listingNode content) with order := 1 }
    (∃ text, render "```\n" = .ok text ∧ code? text.toList = none) ∧
      (∃ text, render "a\n\n" = .ok text ∧ code? text.toList = some "a\n".toList) ∧
      (spanElement "a``b`c").render .lenient = .ok "`` a``b`c ``" ∧
      2 ∈ tickRuns "a``b`c".toList := by
  refine ⟨⟨_, render_codeNode _ .lenient 1 (Or.inl rfl), by decide⟩,
    ⟨_, render_codeNode _ .lenient 1 (Or.inl rfl), by decide⟩, ?_, by decide⟩
  rw [render_codeSpan .lenient rfl (Element.type_of_tag rfl), codeSpan_of_mem (by decide)]
  rfl

end MarkdownSections.CodeFence
