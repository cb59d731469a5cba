import MarkdownSections.Proofs.Section.Rows

/-!
# The contents of sections

Up to the next heading, the contents of the sections of a document, each behind its heading, are
the document from the first heading on: no block is lost and none is taken twice. With nested text
taken in, the content of a section is its content up to the next heading, and behind it the nested
headings with theirs (`Document.WellHeaded.contents_decompose`).

Both are facts about the list of headings of a list of blocks, by induction on the blocks
(`join_pieces_listOf`, `textOf_takeWhile_listOf`). The rows have no part in them beyond being made
one for each heading (`facts_headingRows`).
-/

set_option autoImplicit false

namespace MarkdownSections

namespace Document

/-- The top-level headings. -/
def headingNodes (d : Document) : List Node :=
  d.blocks.filter Node.isHeading

/-- A heading as it stands in the text and the content of its row behind it. -/
def pieceOf (d : Document) (p : Node × Section) : String :=
  d.sourceOf p.1 ++ "\n" ++ p.2.content

/-- A row is about a heading. -/
def IsRowOf (d : Document) (n : Node) (s : Section) : Prop :=
  s.level = n.headingLevel ∧ s.title = n.plainText ∧ s.startLine = d.startLine n

/-! ## Blocks between headings -/

theorem textOf_cons (d : Document) (n : Node) (ns : List Node) :
    d.textOf (n :: ns) = d.sourceOf n ++ "\n" ++ d.textOf ns := by
  unfold textOf
  rw [List.map_cons, String.join_cons]

theorem textOf_append (d : Document) (ms ns : List Node) :
    d.textOf (ms ++ ns) = d.textOf ms ++ d.textOf ns := by
  unfold textOf
  rw [List.map_append, String.join_append]

/-- A heading as it stands in the text and the blocks up to the next heading. -/
def plainPiece (d : Document) (h : Heading) : String :=
  d.sourceOf h.node ++ "\n" ++ d.textOf (h.body .minimal)

theorem body_minimal (h : Heading) :
    h.body .minimal = h.following.takeWhile (!·.isHeading) := by
  unfold Heading.body
  congr 1
  funext n
  simp [Heading.closes]

theorem body_full (h : Heading) :
    h.body .full =
      h.following.takeWhile fun n => !(n.isHeading && decide (n.headingLevel ≤ h.level)) := by
  unfold Heading.body
  congr 1

/-- The headings of a list of blocks and what stands up to the next one make up the blocks from the
first heading on. -/
theorem join_pieces_listOf (d : Document) (ns : List Node) :
    String.join ((Heading.listOf ns).map d.plainPiece) =
      d.textOf (ns.dropWhile (!·.isHeading)) := by
  induction ns with
  | nil => rfl
  | cons n ns ih =>
      cases hn : n.isHeading with
      | false =>
          rw [Heading.listOf_cons_of_not_heading hn, List.dropWhile_cons_of_pos (by simp [hn])]
          exact ih
      | true =>
          -- the piece of `n` and the rest join where the next heading stands
          rw [Heading.listOf_cons_of_heading hn, List.dropWhile_cons_of_neg (by simp [hn]),
            List.map_cons, String.join_cons, ih, textOf_cons, plainPiece, body_minimal,
            String.append_assoc, ← textOf_append, List.takeWhile_append_dropWhile]

/-- The blocks up to a heading of level `level` or smaller are the blocks up to the first heading,
and the deeper headings that come first with what stands up to the next one. -/
theorem textOf_takeWhile_listOf (d : Document) (level : Int) (ns : List Node) :
    d.textOf (ns.takeWhile fun n => !(n.isHeading && decide (n.headingLevel ≤ level))) =
      d.textOf (ns.takeWhile (!·.isHeading)) ++
        String.join (((Heading.listOf ns).takeWhile fun h => decide (level < h.level)).map
          d.plainPiece) := by
  induction ns with
  | nil => rfl
  | cons n ns ih =>
      cases hn : n.isHeading with
      | false =>
          rw [Heading.listOf_cons_of_not_heading hn, List.takeWhile_cons_of_pos (by simp [hn]),
            List.takeWhile_cons_of_pos (by simp [hn]), textOf_cons, textOf_cons, ih]
          exact String.append_assoc.symm
      | true =>
          have hstop : (n :: ns).takeWhile (fun n => !n.isHeading) = [] :=
            List.takeWhile_cons_of_neg (by simp [hn])
          rw [Heading.listOf_cons_of_heading hn, hstop]
          by_cases hlevel : n.headingLevel ≤ level
          · -- the heading ends both sides
            rw [List.takeWhile_cons_of_neg (by simp [hn, hlevel]),
              List.takeWhile_cons_of_neg (by simp; omega)]
            rfl
          · -- the heading and the blocks up to the next one are the first piece on the right
            rw [List.takeWhile_cons_of_pos (by simp [hlevel]),
              List.takeWhile_cons_of_pos (by simp; omega), textOf_cons, ih, List.map_cons,
              String.join_cons, plainPiece, body_minimal]
            simp [textOf, String.append_assoc]

/-- Behind a heading of a list of blocks come the headings of the blocks behind it. -/
theorem drop_listOf {ns : List Node} {i : Nat} {h : Heading}
    (hi : (Heading.listOf ns)[i]? = some h) :
    (Heading.listOf ns).drop (i + 1) = Heading.listOf h.following := by
  induction ns generalizing i with
  | nil => cases hi
  | cons n ns ih =>
      cases hn : n.isHeading with
      | false =>
          rw [Heading.listOf_cons_of_not_heading hn] at hi ⊢
          exact ih hi
      | true =>
          rw [Heading.listOf_cons_of_heading hn] at hi ⊢
          rw [List.drop_succ_cons]
          cases i with
          | zero =>
              obtain rfl := Option.some.inj hi
              rfl
          | succ i => exact ih hi

/-! ## Rows -/

/-- Rows made one for each heading, with the text of its section as the content. -/
def FactsOf (d : Document) (mode : ContentMode) (hs : List Heading) (rows : List Section) : Prop :=
  rows.map (fun s => (s.level, s.title, s.startLine, s.content)) =
    hs.map fun h =>
      (h.node.headingLevel, h.node.plainText, d.startLine h.node, d.textOf (h.body mode))

/-- Only the smart mode shortens a text. -/
theorem contentOf_of_ne_smart (d : Document) {o : SectionOptions} (hmode : o.mode ≠ .smart)
    (h : Heading) (later : List Heading) : d.contentOf o h later = d.textOf (h.body o.mode) := by
  have hnot : (o.mode == ContentMode.smart) = false := by simpa using hmode
  unfold contentOf
  simp [hnot]

theorem facts_headingRows (d : Document) {o : SectionOptions} (hmode : o.mode ≠ .smart)
    (hcontent : o.includeContent = true) {hs : List Heading} (hids : ∀ h ∈ hs, ∃ id, h.id = some id)
    (above : List (Int × String)) :
    (d.headingRows o above hs).map (fun s => (s.level, s.title, s.startLine, s.content)) =
      hs.map fun h => (h.level, h.title, d.startLine h.node, d.textOf (h.body o.mode)) := by
  induction hs generalizing above with
  | nil => rfl
  | cons h later ih =>
      obtain ⟨id, hid⟩ := hids h List.mem_cons_self
      rw [headingRows_cons_of_id d o above hid, List.map_cons, List.map_cons,
        ih fun x hx => hids x (List.mem_cons_of_mem h hx)]
      simp only [headingRow, hcontent, contentOf_of_ne_smart d hmode, if_true]

/-- With all six levels wanted, the rows of headings are made one for each heading. -/
theorem WellHeaded.factsOf {d : Document} (hd : d.WellHeaded) {o : SectionOptions}
    (hmin : o.minLevel = 1) (hmax : o.maxLevel = 6) (hmode : o.mode ≠ .smart)
    (hcontent : o.includeContent = true) :
    d.FactsOf o.mode (Heading.listOf d.blocks) (d.headingRows o [] (d.headings o)) := by
  unfold FactsOf
  rw [facts_headingRows d hmode hcontent (fun h hmem => hd.exists_id hmin hmax hmem) []]
  unfold headings
  rw [Heading.map_assignIds _ fun _ _ => rfl]
  refine List.map_congr_left fun h hmem => ?_
  obtain ⟨-, -, hlevel, htitle, -⟩ := Heading.mem_listOf hmem
  rw [hlevel, htitle]

theorem map_takeWhile_drop_congr {α β γ δ : Type} {f : α → γ} {g : β → γ} {xs : List α}
    {ys : List β} (h : xs.map f = ys.map g) (n : Nat) (p : γ → Bool) (k : γ → δ) :
    ((xs.drop n).takeWhile fun x => p (f x)).map (fun x => k (f x)) =
      ((ys.drop n).takeWhile fun y => p (g y)).map fun y => k (g y) := by
  have hrest : (((xs.map f).drop n).takeWhile p).map k = (((ys.map g).drop n).takeWhile p).map k :=
    by rw [h]
  simpa only [← List.map_drop, List.takeWhile_map, List.map_map, Function.comp_def] using hrest

section Facts

variable {d : Document} {hs : List Heading} {rows : List Section} {mode : ContentMode}

theorem FactsOf.forall₂ (hrows : d.FactsOf mode hs rows) :
    List.Forall₂ d.IsRowOf (hs.map (·.node)) rows := by
  unfold FactsOf at hrows
  induction hs generalizing rows with
  | nil =>
      rw [List.map_nil, List.map_eq_nil_iff] at hrows
      rw [hrows]
      exact List.Forall₂.nil
  | cons h hs ih =>
      cases rows with
      | nil => cases hrows
      | cons s rows =>
          simp only [List.map_cons, List.cons.injEq, Prod.mk.injEq] at hrows
          obtain ⟨⟨hlevel, htitle, hline, -⟩, hrest⟩ := hrows
          exact List.Forall₂.cons ⟨hlevel, htitle, hline⟩ (ih hrest)

theorem FactsOf.map_zip (hrows : d.FactsOf .minimal hs rows)
    (hlevels : ∀ h ∈ hs, h.level = h.node.headingLevel) :
    ((hs.map (·.node)).zip rows).map (fun p => (p.2.level, d.pieceOf p)) =
      hs.map fun h => (h.level, d.plainPiece h) := by
  unfold FactsOf at hrows
  induction hs generalizing rows with
  | nil => rfl
  | cons h hs ih =>
      cases rows with
      | nil => cases hrows
      | cons s rows =>
          simp only [List.map_cons, List.cons.injEq, Prod.mk.injEq] at hrows
          obtain ⟨⟨hlevel, -, -, htext⟩, hrest⟩ := hrows
          rw [List.map_cons, List.zip_cons_cons, List.map_cons, List.map_cons,
            ih hrest fun x hx => hlevels x (List.mem_cons_of_mem h hx), hlevel, pieceOf, htext,
            plainPiece, hlevels h List.mem_cons_self]

theorem FactsOf.getElem? (hrows : d.FactsOf mode hs rows) {i : Nat} {s : Section}
    (hs₁ : rows[i]? = some s) :
    ∃ h, hs[i]? = some h ∧ s.level = h.node.headingLevel ∧ s.content = d.textOf (h.body mode) := by
  -- both lists have the same entry at place `i`
  have hi := congrArg (fun xs => xs[i]?) hrows
  simp only [List.getElem?_map, hs₁, Option.map_some] at hi
  obtain ⟨h, hh, heq⟩ := Option.map_eq_some_iff.mp hi.symm
  simp only [Prod.mk.injEq] at heq
  exact ⟨h, hh, heq.1.symm, heq.2.2.2.symm⟩

end Facts

/-- The contents of the sections of a document up to the next heading, each behind its heading, make
up the blocks from the first heading on. With nested text taken in, a content is the one up to the
next heading and the deeper headings that come first behind it, each with its own. -/
theorem WellHeaded.contents_decompose {d : Document} (hd : d.WellHeaded) (limit : Int) :
    ∃ minimal full,
      d.sections { mode := .minimal, maxContentLength := limit } =
        .ok (d.frontmatterRow {} ++ minimal) ∧
      d.sections { mode := .full, maxContentLength := limit } =
        .ok (d.frontmatterRow {} ++ full) ∧
      List.Forall₂ d.IsRowOf d.headingNodes minimal ∧
      List.Forall₂ d.IsRowOf d.headingNodes full ∧
      String.join ((d.headingNodes.zip minimal).map d.pieceOf) =
        d.textOf (d.blocks.dropWhile (!·.isHeading)) ∧
      ∀ i r s, minimal[i]? = some r → full[i]? = some s →
        s.content = r.content ++
          String.join ((((d.headingNodes.zip minimal).drop (i + 1)).takeWhile fun p =>
            decide (r.level < p.2.level)).map d.pieceOf) := by
  have hminimal :=
    hd.factsOf (o := { mode := .minimal, maxContentLength := limit }) rfl rfl (fun h => nomatch h)
      rfl
  have hfull :=
    hd.factsOf (o := { mode := .full, maxContentLength := limit }) rfl rfl (fun h => nomatch h) rfl
  have hnodes : d.headingNodes = (Heading.listOf d.blocks).map (·.node) :=
    (Heading.map_node_listOf d.blocks).symm
  have hzip := hminimal.map_zip fun h hmem => (Heading.mem_listOf hmem).2.2.1
  rw [← hnodes] at hzip
  refine ⟨_, _, sections_eq hd _, sections_eq hd _, hnodes ▸ hminimal.forall₂,
    hnodes ▸ hfull.forall₂, ?_, fun i r s hr hs => ?_⟩
  · -- all pieces in a row
    have hpieces := congrArg (List.map Prod.snd) hzip
    rw [List.map_map, List.map_map] at hpieces
    rw [← join_pieces_listOf]
    exact congrArg String.join hpieces
  · -- rows `i` of both modes belong to one heading, and the pieces behind it to those behind
    obtain ⟨h, hh, hlevel, hrtext⟩ := hminimal.getElem? hr
    obtain ⟨h', hh', -, hstext⟩ := hfull.getElem? hs
    obtain rfl := Option.some.inj (hh.symm.trans hh')
    obtain ⟨-, -, hheading, -⟩ := Heading.mem_listOf (List.mem_of_getElem? hh)
    have hpieces := map_takeWhile_drop_congr hzip (i + 1) (fun m => decide (r.level < m.1)) Prod.snd
    rw [drop_listOf hh, hlevel, ← hheading] at hpieces
    rw [hstext, hrtext, body_full, body_minimal, textOf_takeWhile_listOf, hlevel, ← hheading]
    exact congrArg (fun ps => _ ++ String.join ps) hpieces.symm

theorem contents_decompose_sample :
    sample.WellHeaded ∧ ∃ minimal,
      sample.sections { mode := .minimal, maxContentLength := 2000 } =
        .ok (sample.frontmatterRow {} ++ minimal) ∧
      String.join ((sample.headingNodes.zip minimal).map sample.pieceOf) =
        sample.textOf (sample.blocks.dropWhile (!·.isHeading)) := by
  obtain ⟨minimal, -, hminimal, -, -, -, hjoin, -⟩ :=
    wellHeaded_sample.contents_decompose 2000
  exact ⟨wellHeaded_sample, minimal, hminimal, hjoin⟩

end Document

end MarkdownSections
