import MarkdownSections.Proofs.Markdown.Lines

/-!
# Texts of passages

A passage is a run of lines that is read as one block wherever an empty line stands behind it
(`Passage.IsRead`). A list takes in that empty line, and it has to be followed by a line that is no
further item of it (`endsList`). A text that is written passage by passage is read passage by passage
(`ofText_passages`).
-/

set_option autoImplicit false

namespace MarkdownSections.Markdown.Block

/-- Lines, and the tokens of their block by the number of the first line. If the block is a list,
its items have a mark. -/
structure Passage where
  lines : List (List Char)
  tokens : Nat → List Token
  mark? : Option Char := none

/-- Whether a line behind an empty one is no part of a list with the given mark in front. -/
def endsList (mark : Char) (cs : List Char) : Bool :=
  let l := endedLine cs
  !l.isEmpty && l.indent = 0 && (isRule (topContext []) l
    || (numberMarker? l.content).all (·.mark != mark) && (bulletMarker? l.content).all (·.mark != mark))

namespace Passage

/-- Whether the block of a passage is a list. -/
def isList (p : Passage) : Bool :=
  p.mark?.isSome

/-- The lines of a passage and the empty line behind them. -/
def written (p : Passage) : List (List Char) :=
  p.lines ++ [[]]

/-- Whether what comes behind a passage is no part of it. -/
def IsEndedBy (p : Passage) (later : List (List Char)) : Prop :=
  ∀ mark ∈ p.mark?, ∀ cs ∈ later.head?, endsList mark cs = true

/-- Whether a passage is read as its block wherever it stands. -/
structure IsRead (p : Passage) : Prop where
  opens : ∃ first more, p.lines = first :: more ∧ (endedLine first).isEmpty = false
  reads : ∀ {lines : List Line} {i : Nat} {later : List (List Char)}, p.IsEndedBy later →
    Sees (topContext lines) i ((p.written ++ later).map endedLine) →
      i + (p.written ++ later).length = lines.length →
        block (blocks 20) (topContext lines) i lines.length =
          { next := i + p.lines.length + (if p.isList then 1 else 0), tokens := p.tokens i }

/-- What stands in passages, one behind the other from line `i` on. -/
def placed {α : Type} (f : Nat → Passage → α) (i : Nat) : List Passage → List α
  | [] => []
  | p :: ps => f i p :: placed f (i + p.written.length) ps

/-- The lines of passages. -/
def allWritten (ps : List Passage) : List (List Char) :=
  ps.flatMap written

/-- Whether passages are read as their blocks where they stand. -/
def AreRead : List Passage → Prop
  | [] => True
  | p :: ps => p.IsRead ∧ p.IsEndedBy (allWritten ps) ∧ AreRead ps

end Passage

open Passage

variable {lines : List Line}

theorem skipEmpty_of_content {ctx : Context} {i : Nat} (h : (ctx.line i).isEmpty = false) :
    ctx.skipEmpty i = i := by
  unfold Context.skipEmpty
  cases ctx.limit - i with
  | zero => rfl
  | succ count => simp [Context.skipEmptyFrom, h]

/-- The line behind a block, or behind the empty line that follows it. -/
def behind (ctx : Context) (stop next : Nat) : Nat :=
  if next < stop && (ctx.line next).isEmpty then next + 1 else next

/-- One block in front of others. -/
theorem blocksFrom_succ {inner : Reader} {ctx : Context} {stop fuel i : Nat} {one : Blocks}
    (hi : i < stop) (hcontent : (ctx.line i).isEmpty = false)
    (hindent : ctx.indent ≤ (ctx.line i).indent) (hlevel : ctx.level < ctx.preset.maxNesting)
    (hone : block inner ctx i stop = one) :
    blocksFrom inner ctx stop (fuel + 1) i =
      { next := (blocksFrom inner ctx stop fuel (behind ctx stop one.next)).next
        tokens := one.tokens ++ (blocksFrom inner ctx stop fuel (behind ctx stop one.next)).tokens
        definitions := one.definitions ++
          (blocksFrom inner ctx stop fuel (behind ctx stop one.next)).definitions
        readable := one.readable &&
          (blocksFrom inner ctx stop fuel (behind ctx stop one.next)).readable } := by
  have hstop : ¬stop ≤ i := Nat.not_le.mpr hi
  have hlow : ¬(ctx.line i).indent < ctx.indent := Int.not_lt.mpr hindent
  rw [blocksFrom]
  simp only [skipEmpty_of_content hcontent, hstop, hlow, Nat.not_le.mpr hlevel, hone, behind]
  rfl

/-- The blocks of a container end at a line that stands left of it. -/
theorem blocksFrom_of_left {inner : Reader} {ctx : Context} {j stop : Nat}
    (h : stop ≤ j ∨ (ctx.line j).isEmpty = false ∧ (ctx.line j).indent < ctx.indent) (fuel : Nat) :
    blocksFrom inner ctx stop fuel j = { next := j } := by
  cases fuel with
  | zero => rfl
  | succ fuel =>
      rw [blocksFrom]
      split
      · rfl
      · next hstop =>
          obtain ⟨hcontent, hleft⟩ := h.resolve_left hstop
          simp [skipEmpty_of_content hcontent, hleft]

theorem indent_endedLine (cs : List Char) : 0 ≤ (endedLine cs).indent := by
  simp [endedLine, Line.ofChars]

/-- A passage opens with a line that has content. -/
theorem Passage.IsRead.isEmpty_head {p : Passage} (hp : p.IsRead) {i : Nat} {later : List Line}
    (hsees : Sees (topContext lines) i (p.written.map endedLine ++ later)) :
    ((topContext lines).line i).isEmpty = false := by
  obtain ⟨first, more, hlines, hfirst⟩ := hp.opens
  rw [written, hlines] at hsees
  rw [hsees.head]
  exact hfirst

theorem Passage.AreRead.isEmpty_head {ps : List Passage} (hps : AreRead ps) {i : Nat}
    (hsees : Sees (topContext lines) i ((allWritten ps).map endedLine))
    (hend : i + (allWritten ps).length = lines.length) (hi : i < lines.length) :
    ((topContext lines).line i).isEmpty = false := by
  cases ps with
  | nil => simp [allWritten] at hend; omega
  | cons p ps =>
      rw [allWritten, List.flatMap_cons, List.map_append] at hsees
      exact hps.1.isEmpty_head hsees

theorem Passage.length_written (p : Passage) : p.written.length = p.lines.length + 1 := by
  simp [written]

/-- Behind the block of a passage and its empty line the next passage starts. -/
theorem behind_passage {p : Passage} {ps : List Passage} (hps : AreRead ps) {i : Nat}
    (hsees : Sees (topContext lines) i ((p.written ++ allWritten ps).map endedLine))
    (hend : i + (p.written ++ allWritten ps).length = lines.length) :
    behind (topContext lines) lines.length (i + p.lines.length + (if p.isList then 1 else 0)) =
      i + p.written.length := by
  rw [List.map_append] at hsees
  rw [List.length_append, ← Nat.add_assoc] at hend
  rw [length_written] at hend ⊢
  cases p.isList with
  | false =>
      -- the empty line behind the block is passed over
      have hempty : (topContext lines).line (i + p.lines.length) = endedLine [] := by
        rw [written, List.map_append, List.append_assoc] at hsees
        simpa using hsees.right.head
      have hlt : i + p.lines.length < lines.length := by omega
      simp [behind, hempty, hlt]
      rfl
  | true =>
      -- the list has taken it in, and the next passage has content
      have hlater : Sees (topContext lines) (i + (p.lines.length + 1))
          ((allWritten ps).map endedLine) := by
        simpa [length_written] using hsees.right
      by_cases hlt : i + p.lines.length + 1 < lines.length
      · have hcontent : ((topContext lines).line (i + p.lines.length + 1)).isEmpty = false :=
          hps.isEmpty_head hlater hend hlt
        simp [behind, hcontent]
        rfl
      · simp [behind, hlt]
        rfl

/-- Passages are read one behind the other. -/
theorem blocksFrom_passages {ps : List Passage} (hps : AreRead ps) {i fuel : Nat}
    (hsees : Sees (topContext lines) i ((allWritten ps).map endedLine))
    (hend : i + (allWritten ps).length = lines.length) (hfuel : ps.length < fuel) :
    blocksFrom (blocks 20) (topContext lines) lines.length fuel i =
      { next := lines.length, tokens := (placed (fun i p => p.tokens i) i ps).flatten } := by
  -- one passage is one block, and the block ends where the next passage starts
  induction ps generalizing i fuel with
  | nil =>
      obtain ⟨fuel, rfl⟩ : ∃ k, fuel = k + 1 := ⟨fuel - 1, by simp at hfuel; omega⟩
      have hi : i = lines.length := hend
      rw [blocksFrom, if_pos (Nat.le_of_eq hi.symm), hi]
      rfl
  | cons p ps ih =>
      obtain ⟨fuel, rfl⟩ : ∃ k, fuel = k + 1 := ⟨fuel - 1, by simp at hfuel; omega⟩
      obtain ⟨hp, hended, hps⟩ := hps
      have hall : allWritten (p :: ps) = p.written ++ allWritten ps := List.flatMap_cons
      rw [hall] at hsees hend
      have hblock := hp.reads hended hsees hend
      have hbehind := behind_passage hps hsees hend
      rw [List.map_append] at hsees
      rw [List.length_append, ← Nat.add_assoc] at hend
      have hlater : Sees (topContext lines) (i + p.written.length)
          ((allWritten ps).map endedLine) := by
        simpa using hsees.right
      have hrest := ih hps hlater hend (Nat.lt_of_succ_lt_succ hfuel)
      have hcontent : ((topContext lines).line i).isEmpty = false := hp.isEmpty_head hsees
      have hindent : 0 ≤ ((topContext lines).line i).indent := by
        obtain ⟨first, more, hlines, -⟩ := hp.opens
        rw [written, hlines] at hsees
        rw [hsees.head]
        exact indent_endedLine first
      have hlt : i < lines.length := by
        rw [length_written] at hend
        omega
      have hlevel : (topContext lines).level < (topContext lines).preset.maxNesting :=
        show 0 < 20 by decide
      rw [blocksFrom_succ hlt hcontent hindent hlevel hblock, hbehind, hrest]
      simp [placed]

theorem length_le_allWritten (ps : List Passage) : ps.length ≤ (allWritten ps).length := by
  induction ps with
  | nil => exact Nat.le_refl 0
  | cons p ps ih =>
      rw [allWritten, List.flatMap_cons, List.length_append, length_written, List.length_cons]
      rw [allWritten] at ih
      omega

/-- A text of passages is read passage by passage. -/
theorem ofText_passages {ps : List Passage} (hps : AreRead ps)
    (hlines : ∀ l ∈ allWritten ps, '\n' ∉ l) :
    ofText .gfmLike (joinLines (allWritten ps)) =
      { next := (allWritten ps).length
        tokens := (placed (fun i p => p.tokens i) 0 ps).flatten } := by
  have hctx : ofText .gfmLike (joinLines (allWritten ps)) =
      blocksFrom (blocks 20) (topContext ((allWritten ps).map endedLine))
        ((allWritten ps).map endedLine).length (((allWritten ps).map endedLine).length - 0 + 1)
        0 := by
    simp only [ofText, linesOf_joinLines hlines]
    rfl
  have hsees : Sees (topContext ((allWritten ps).map endedLine)) ([] : List Line).length
      ((allWritten ps).map endedLine) := sees_of_lines rfl
  have hcount := length_le_allWritten ps
  rw [hctx, blocksFrom_passages hps]
  · simp
  · exact hsees
  · simp
  · simp
    omega

end MarkdownSections.Markdown.Block
