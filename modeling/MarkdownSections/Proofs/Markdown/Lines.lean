import MarkdownSections.Markdown.Block.Container
import MarkdownSections.Proofs.Text.Blank

/-!
# Lines of a written text

A text that is written line by line is seen as these lines (`linesOf_joinLines`), and a container
that sees them gives their text back (`textFrom_of_sees`).
-/

set_option autoImplicit false

namespace MarkdownSections.Markdown

/-- The text of lines, each ended by a line feed. -/
def joinLines (ls : List (List Char)) : List Char :=
  ls.flatMap (· ++ ['\n'])

@[simp] theorem joinLines_nil : joinLines [] = [] := rfl

@[simp] theorem joinLines_cons (l : List Char) (ls : List (List Char)) :
    joinLines (l :: ls) = l ++ '\n' :: joinLines ls := by
  simp [joinLines]

theorem joinLines_append (ls ls' : List (List Char)) :
    joinLines (ls ++ ls') = joinLines ls ++ joinLines ls' :=
  List.flatMap_append

/-- The lines are set apart by line feeds, and one more stands at the end. -/
theorem joinLines_eq_intercalate {ls : List (List Char)} (h : ls ≠ []) :
    joinLines ls = ['\n'].intercalate ls ++ ['\n'] := by
  induction ls with
  | nil => exact absurd rfl h
  | cons l ls ih =>
      cases ls with
      | nil => simp
      | cons l' ls =>
          rw [joinLines_cons, ih (List.cons_ne_nil l' ls), List.intercalate_cons_cons]
          simp

/-- The lines of a text, which a line feed sets apart. -/
def textLines (cs : List Char) : List (List Char) :=
  Text.splitWhen (· == '\n') cs

theorem joinLines_textLines (cs : List Char) : joinLines (textLines cs) = cs ++ ['\n'] := by
  have hne : textLines cs ≠ [] := Text.splitWhen_ne_nil _ cs
  rw [joinLines_eq_intercalate hne, textLines, Text.intercalate_splitWhen]

theorem notMem_of_mem_textLines {cs line : List Char} (h : line ∈ textLines cs) : '\n' ∉ line := by
  intro hmem
  have hno := Text.notMem_of_mem_splitWhen h '\n' hmem
  cases hno

/-- A line that is ended by a line feed. -/
def endedLine (cs : List Char) : Line :=
  .ofChars cs true

theorem linesOf_append_newline {cs : List Char} (h : '\n' ∉ cs) (front rest : List Char) :
    linesOf front (cs ++ '\n' :: rest) = endedLine (front.reverse ++ cs) :: linesOf [] rest := by
  induction cs generalizing front with
  | nil => simp [linesOf, endedLine]
  | cons c cs ih =>
      have hc : c ≠ '\n' := fun heq => h (heq ▸ List.mem_cons_self)
      have hcs : '\n' ∉ cs := fun hmem => h (List.mem_cons_of_mem c hmem)
      rw [List.cons_append, linesOf, if_neg hc, ih hcs]
      simp

/-- The lines of a text that is written line by line. -/
theorem linesOf_joinLines {ls : List (List Char)} (h : ∀ l ∈ ls, '\n' ∉ l) :
    linesOf [] (joinLines ls) = ls.map endedLine := by
  induction ls with
  | nil => rfl
  | cons l ls ih =>
      rw [joinLines_cons, linesOf_append_newline (h l List.mem_cons_self), List.map_cons,
        ih fun x hx => h x (List.mem_cons_of_mem l hx)]
      rfl

namespace Block

/-- The container of a whole text. -/
def topContext (lines : List Line) : Context :=
  { preset := .gfmLike, lines := lines.toArray, limit := lines.length }

/-- From line `i` on, a container sees the given lines first. -/
def Sees (ctx : Context) (i : Nat) (ls : List Line) : Prop :=
  ∀ k l, ls[k]? = some l → ctx.line (i + k) = l

variable {ctx : Context} {i : Nat}

theorem Sees.head {l : Line} {ls : List Line} (h : Sees ctx i (l :: ls)) : ctx.line i = l :=
  h 0 l rfl

theorem Sees.tail {l : Line} {ls : List Line} (h : Sees ctx i (l :: ls)) : Sees ctx (i + 1) ls := by
  intro k x hx
  rw [Nat.add_assoc, Nat.add_comm 1 k]
  exact h (k + 1) x hx

theorem Sees.left {ls ls' : List Line} (h : Sees ctx i (ls ++ ls')) : Sees ctx i ls := by
  intro k x hx
  obtain ⟨hlt, -⟩ := List.getElem?_eq_some_iff.mp hx
  exact h k x ((List.getElem?_append_left hlt).trans hx)

theorem Sees.right {ls ls' : List Line} (h : Sees ctx i (ls ++ ls')) :
    Sees ctx (i + ls.length) ls' := by
  intro k x hx
  rw [Nat.add_assoc]
  apply h
  rw [List.getElem?_append_right (Nat.le_add_right _ _), Nat.add_sub_cancel_left]
  exact hx

/-- The lines of a container from some line on are what it sees there. -/
theorem sees_of_lines {ls ls' : List Line} (h : ctx.lines = (ls ++ ls').toArray) :
    Sees ctx ls.length ls' := by
  intro k x hx
  have hget : (ls ++ ls')[ls.length + k]? = some x := by
    rw [List.getElem?_append_right (Nat.le_add_right _ _), Nat.add_sub_cancel_left]
    exact hx
  simp [Context.line, h, Array.getD_eq_getD_getElem?, hget]

theorem cut_endedLine (cs : List Char) : (endedLine cs).cut 0 = cs := by
  cases cs <;> rfl

theorem lineEnd_endedLine (cs : List Char) : (endedLine cs).lineEnd = ['\n'] := rfl

/-- Lines that a container sees are its text there. -/
theorem textFrom_of_sees {ls : List (List Char)} (h : Sees ctx i (ls.map endedLine)) :
    ctx.textFrom 0 true i ls.length = joinLines ls := by
  induction ls generalizing i with
  | nil => rfl
  | cons l ls ih =>
      rw [List.map_cons] at h
      rw [List.length_cons, Context.textFrom, h.head, ih h.tail]
      simp [cut_endedLine, lineEnd_endedLine]

/-- A line of a text behind marks that take up `base` columns. -/
def lineBehind (base : Nat) (cs : List Char) : Line :=
  { endedLine cs with base := base }

theorem cut_lineBehind (base : Nat) (cs : List Char) : (lineBehind base cs).cut 0 = cs := by
  cases cs <;> rfl

/-- The last line end may be left out. -/
theorem textFrom_intercalate {base : Nat} {ls : List (List Char)}
    (h : Sees ctx i (ls.map (lineBehind base))) :
    ctx.textFrom 0 false i ls.length = ['\n'].intercalate ls := by
  induction ls generalizing i with
  | nil => rfl
  | cons l ls ih =>
      rw [List.map_cons] at h
      cases ls with
      | nil => simp [Context.textFrom, h.head, cut_lineBehind]
      | cons l' ls =>
          have hrest := ih h.tail
          have hend : (lineBehind base l).lineEnd = ['\n'] := rfl
          rw [List.length_cons, Context.textFrom, h.head, hrest, List.intercalate_cons_cons]
          simp [cut_lineBehind, hend]

end Block

end MarkdownSections.Markdown
