import MarkdownSections.Document.Elements
import MarkdownSections.Proofs.Element.Render
import MarkdownSections.Proofs.Markdown.Quote
import MarkdownSections.Proofs.Text.Lines

/-!
# The text of a quote

A quote puts each visual line of its content behind a mark, and unquoting takes the marks off the
visual lines of the text and sets them apart by line feeds (`unquote_quoteText`). So the content comes
back with a line feed for whatever ended its visual lines, and it comes back unchanged exactly if
nothing but line feeds ends them (`unquote_render_iff`).
-/

set_option autoImplicit false

namespace MarkdownSections

open Markdown (joinLines joinLines_append joinLines_cons joinLines_eq_intercalate joinLines_nil
  joinLines_textLines notMem_of_mem_textLines textLines)
open Markdown.Block (quotedChars)

/-! ## Lines behind marks -/

section Lines

variable {ls : List (List Char)} (h : ∀ cs ∈ ls, ∀ c ∈ cs, Text.isLineEnd c = false)

include h

theorem visualLines_joinLines_quotedChars :
    Text.visualLines (joinLines (ls.map quotedChars)) = ls.map quotedChars := by
  induction ls with
  | nil => rfl
  | cons cs ls ih =>
      have hmarked : ∀ c ∈ quotedChars cs, Text.isLineEnd c = false := by
        intro c hc
        rw [quotedChars, List.mem_cons, List.mem_cons] at hc
        rcases hc with rfl | rfl | hc
        · rfl
        · rfl
        · exact h cs List.mem_cons_self c hc
      rw [List.map_cons, joinLines_cons, Text.visualLines_append_newline hmarked,
        ih fun x hx => h x (List.mem_cons_of_mem cs hx)]

/-- Lines that line feeds set apart are the visual lines of the text, if the last one is not empty. -/
theorem visualLines_intercalate (hlast : ∀ cs ∈ ls.getLast?, cs ≠ []) :
    Text.visualLines (['\n'].intercalate ls) = ls := by
  induction ls with
  | nil => rfl
  | cons cs ls ih =>
      have hline := h cs List.mem_cons_self
      cases ls with
      | nil => simpa using Text.visualLines_of_line hline (hlast cs rfl)
      | cons cs' ls =>
          have hrest := ih (fun x hx => h x (List.mem_cons_of_mem cs hx)) fun x hx =>
            hlast x (by rwa [List.getLast?_cons_cons])
          rw [List.intercalate_cons_cons, List.append_assoc, List.singleton_append,
            Text.visualLines_append_newline hline, hrest]

/-- The marks are taken off the lines behind them. -/
theorem unquote_joinLines_quotedChars :
    Node.unquote (String.ofList (joinLines (ls.map quotedChars))) =
      Text.dropFinalNewlines (String.ofList (['\n'].intercalate ls)) := by
  have hmarks : (ls.map quotedChars).map (fun line => String.ofList (Node.unquoteLine line)) =
      ls.map String.ofList := by
    rw [List.map_map]
    exact List.map_congr_left fun cs _ => rfl
  -- The join is on strings here and on characters in the lines, so it is moved once.
  have hjoined : "\n".intercalate (ls.map String.ofList) =
      String.ofList (['\n'].intercalate ls) := by
    have hlist : (ls.map String.ofList).map String.toList = ls := by simp
    rw [← String.toList_inj, String.toList_intercalate, hlist]
    exact String.toList_ofList.symm
  rw [Node.unquote, String.toList_ofList, visualLines_joinLines_quotedChars h]
  simp only [hmarks, hjoined]

end Lines

/-! ## Quoting and unquoting -/

/-- A quote is its visual lines behind their marks, and an empty line. -/
theorem quoteText_ofList (content : List Char) :
    Element.quoteText (String.ofList content) =
      String.ofList (joinLines ((Text.visualLines content).map quotedChars) ++ ['\n']) := by
  have hjoin : ∀ ls : List (List Char),
      String.join (ls.map fun line => "> " ++ String.ofList line ++ "\n") =
        String.ofList (joinLines (ls.map quotedChars)) := by
    intro ls
    induction ls with
    | nil => rfl
    | cons cs ls ih =>
        rw [List.map_cons, List.map_cons, String.join_cons, ih, ← String.toList_inj]
        simp [quotedChars]
  rw [Element.quoteText, String.toList_ofList, hjoin, String.ofList_append]

section Trimmed

variable {content : List Char} (hne : content ≠ []) (htrim : Text.trimEnd content = content)

include hne htrim

/-- The last visual line of a text without blanks at its end has none there either. -/
theorem exists_visualLines_eq_append :
    ∃ init line c, Text.visualLines content = init ++ [line ++ [c]] ∧ Text.isBlank c = false := by
  rcases List.eq_nil_or_concat content with hnil | ⟨front, c, hcontent⟩
  · exact absurd hnil hne
  · rw [List.concat_eq_append] at hcontent
    have hblank : Text.isBlank c = false := by
      apply Text.eq_false_of_dropEndWhile_eq_self htrim c
      rw [hcontent, List.getLast?_concat]
      rfl
    have hend : Text.isLineEnd c = false := by
      rw [Bool.eq_false_iff] at hblank ⊢
      exact fun hend => hblank (Text.isBlank_of_isLineEnd hend)
    obtain ⟨init, line, hlines⟩ := Text.exists_visualLinesFrom_append hend [] front
    exact ⟨init, line, c, by rw [hcontent, Text.visualLines, hlines], hblank⟩

/-- Nothing but the last line end is trimmed off the lines of a quote. -/
theorem trimEnd_joinLines_visualLines :
    Text.trimEnd (joinLines ((Text.visualLines content).map quotedChars)) ++ ['\n'] =
      joinLines ((Text.visualLines content).map quotedChars) := by
  obtain ⟨init, line, c, hlines, hblank⟩ := exists_visualLines_eq_append hne htrim
  have hquoted : joinLines ((Text.visualLines content).map quotedChars) =
      (joinLines (init.map quotedChars) ++ quotedChars line ++ [c]) ++ ['\n'] := by
    rw [hlines, List.map_append, joinLines_append]
    simp [quotedChars]
  have hkept : Text.trimEnd (joinLines (init.map quotedChars) ++ quotedChars line ++ [c]) =
      joinLines (init.map quotedChars) ++ quotedChars line ++ [c] :=
    Text.dropEndWhile_append_cons hblank _ []
  rw [hquoted, Text.trimEnd, Text.dropEndWhile_append_singleton rfl, ← Text.trimEnd, hkept]

/-- Unquoting the lines of a quote gives the visual lines of its content, which line feeds set
apart. -/
theorem unquote_joinLines_visualLines :
    Node.unquote (String.ofList (joinLines ((Text.visualLines content).map quotedChars))) =
      String.ofList (['\n'].intercalate (Text.visualLines content)) := by
  obtain ⟨init, line, c, hlines, hblank⟩ := exists_visualLines_eq_append hne htrim
  have hjoined : ['\n'].intercalate (Text.visualLines content) = joinLines init ++ line ++ [c] := by
    have happend : joinLines (init ++ [line ++ [c]]) =
        ['\n'].intercalate (init ++ [line ++ [c]]) ++ ['\n'] := joinLines_eq_intercalate (by simp)
    rw [joinLines_append, joinLines_cons, joinLines_nil] at happend
    have hended : ['\n'].intercalate (init ++ [line ++ [c]]) ++ ['\n'] =
        joinLines init ++ line ++ [c] ++ ['\n'] := by
      rw [← happend]
      simp
    rw [hlines]
    exact List.append_cancel_right hended
  have hkept : Text.dropEndWhile (· == '\n') (joinLines init ++ line ++ [c]) =
      joinLines init ++ line ++ [c] := by
    apply Text.dropEndWhile_eq_self
    intro d hd
    rw [List.getLast?_concat] at hd
    cases hd
    -- a line feed would be a blank
    rw [beq_eq_false_iff_ne]
    rintro rfl
    cases hblank
  rw [unquote_joinLines_quotedChars fun cs hcs => Text.isLineEnd_of_mem_visualLines hcs, hjoined,
    Text.dropFinalNewlines, String.toList_ofList, hkept]

/-- Unquoting the text of a quote, trimmed and ended like the source of a block. -/
theorem unquote_quoteText :
    Node.unquote (Text.trimEndString (Element.quoteText (String.ofList content)) ++ "\n") =
      String.ofList (['\n'].intercalate (Text.visualLines content)) := by
  have hsource : Text.trimEndString (Element.quoteText (String.ofList content)) ++ "\n" =
      String.ofList (joinLines ((Text.visualLines content).map quotedChars)) := by
    have hkept := trimEnd_joinLines_visualLines hne htrim
    rw [quoteText_ofList, Text.trimEndString, String.toList_ofList, Text.trimEnd,
      Text.dropEndWhile_append_singleton rfl, ← Text.trimEnd, ← String.toList_inj,
      String.toList_append, String.toList_ofList, String.toList_ofList, String.toList_ofList]
    exact hkept
  rw [hsource, unquote_joinLines_visualLines hne htrim]

/-- The last line of a text without blanks at its end is not empty. -/
theorem ne_nil_of_getLast?_textLines : ∀ cs ∈ (textLines content).getLast?, cs ≠ [] := by
  rintro cs hcs rfl
  obtain ⟨front, hlines⟩ := List.getLast?_eq_some_iff.mp hcs
  have hjoined := joinLines_textLines content
  rw [hlines, joinLines_append, joinLines_cons, joinLines_nil, List.nil_append] at hjoined
  have hcontent : joinLines front = content := List.append_cancel_right hjoined
  -- so the text is empty or ends with the line feed behind the line before
  rcases List.eq_nil_or_concat front with rfl | ⟨before, line, hfront⟩
  · exact hne hcontent.symm
  · rw [hfront, List.concat_eq_append, joinLines_append, joinLines_cons, joinLines_nil] at hcontent
    have hblank := Text.eq_false_of_dropEndWhile_eq_self htrim '\n' (by rw [← hcontent]; simp)
    cases hblank

/-- If only line feeds end its visual lines, these are the lines of a text. -/
theorem visualLines_eq_textLines (hends : ∀ c ∈ content, Text.isLineEnd c = true → c = '\n') :
    Text.visualLines content = textLines content := by
  have hlines : ∀ line ∈ textLines content, ∀ c ∈ line, Text.isLineEnd c = false := by
    intro line hline c hc
    rw [Bool.eq_false_iff]
    intro hend
    have hmem : c ∈ joinLines (textLines content) :=
      List.mem_flatMap.mpr ⟨line, hline, List.mem_append_left _ hc⟩
    rw [joinLines_textLines, List.mem_append, List.mem_singleton] at hmem
    have hnewline : c = '\n' := hmem.elim (fun hmem => hends c hmem hend) id
    exact notMem_of_mem_textLines hline (hnewline ▸ hc)
  have hvisual := visualLines_intercalate hlines (ne_nil_of_getLast?_textLines hne htrim)
  rwa [textLines, Text.intercalate_splitWhen] at hvisual

/-- Line feeds between its visual lines make up a text exactly if nothing else ends them. -/
theorem intercalate_visualLines_iff :
    ['\n'].intercalate (Text.visualLines content) = content ↔
      ∀ c ∈ content, Text.isLineEnd c = true → c = '\n' := by
  constructor
  · intro heq c hc hend
    by_cases hlines : Text.visualLines content = []
    · rw [hlines] at heq
      exact absurd heq.symm hne
    · -- a character of the joined lines stands in a line or is the line feed behind one
      have hmem : c ∈ joinLines (Text.visualLines content) := by
        rw [joinLines_eq_intercalate hlines, heq]
        exact List.mem_append_left _ hc
      obtain ⟨line, hline, hc⟩ := List.mem_flatMap.mp hmem
      rcases List.mem_append.mp hc with hc | hc
      · rw [Text.isLineEnd_of_mem_visualLines hline c hc] at hend
        cases hend
      · exact List.mem_singleton.mp hc
  · intro hends
    rw [visualLines_eq_textLines hne htrim hends, textLines, Text.intercalate_splitWhen]

end Trimmed

/-- **Quoting and unquoting.** The text of a quote, trimmed and ended like the source of a block, is
unquoted to the content of the quote exactly if only line feeds end the visual lines of the content. -/
theorem unquote_render_iff {e : Element} (htype : e.type = .blockquote) (hblock : e.isInline = false)
    (codec : Codec) (hne : e.content ≠ "") (htrim : Text.trimEndString e.content = e.content) :
    ∃ text, e.render codec = .ok text ∧
      (Node.unquote (Text.trimEndString text ++ "\n") = e.content ↔
        ∀ c ∈ e.content.toList, Text.isLineEnd c = true → c = '\n') := by
  have hpayload : e.payload codec = .ok .plain := by
    unfold Element.payload
    split
    · rfl
    · rw [htype]
  have hrender : e.render codec = .ok (Element.quoteText e.content) := by
    rw [Element.render_of_plain hpayload, Element.renderPayload, hblock, Element.blockText, htype]
    rfl
  refine ⟨_, hrender, ?_⟩
  have hchars : e.content.toList ≠ [] := by simpa using hne
  have htrim' : Text.trimEnd e.content.toList = e.content.toList := by
    rw [Text.trimEndString, ← String.toList_inj, String.toList_ofList] at htrim
    exact htrim
  -- The quote comes back as its visual lines joined by line feeds, whatever ended them before.
  have hunquote := unquote_quoteText hchars htrim'
  rw [String.ofList_toList] at hunquote
  rw [hunquote, ← String.toList_inj, String.toList_ofList]
  exact intercalate_visualLines_iff hchars htrim'

/-- The element of a quote. -/
def quoteElement (content : String) : Element :=
  { kind := some .block, elementType := ElementType.blockquote.tag, content }

theorem unquote_render_nested :
    ((quoteElement "> a\n\n  b").type = .blockquote ∧ (quoteElement "> a\n\n  b").isInline = false ∧
        (quoteElement "> a\n\n  b").content ≠ "" ∧
        Text.trimEndString (quoteElement "> a\n\n  b").content = "> a\n\n  b") ∧
      ∃ text, (quoteElement "> a\n\n  b").render .lenient = .ok text ∧
        Node.unquote (Text.trimEndString text ++ "\n") = "> a\n\n  b" := by
  have hne : (quoteElement "> a\n\n  b").content ≠ "" := by decide
  have htrim : Text.trimEndString (quoteElement "> a\n\n  b").content = "> a\n\n  b" := by decide
  have hall : (quoteElement "> a\n\n  b").content.toList.all
      (fun c => !Text.isLineEnd c || c == '\n') = true := by decide
  have hends : ∀ c ∈ (quoteElement "> a\n\n  b").content.toList,
      Text.isLineEnd c = true → c = '\n' := by
    intro c hc hend
    simpa [hend] using List.all_eq_true.mp hall c hc
  obtain ⟨text, hrender, hiff⟩ := unquote_render_iff (e := quoteElement "> a\n\n  b") rfl rfl .lenient
    hne htrim
  exact ⟨⟨rfl, rfl, hne, htrim⟩, text, hrender, hiff.mpr hends⟩

/-- A form feed in a quote comes back as a line feed. -/
theorem not_unquote_formFeed :
    (quoteElement "a\x0cb").render .lenient = .ok "> a\n> b\n\n" ∧
      Node.unquote (Text.trimEndString "> a\n> b\n\n" ++ "\n") = "a\nb" ∧
      ¬ ∀ content : String, content ≠ "" → '\r' ∉ content.toList →
        Text.trimEndString content = content →
          ∃ text, (quoteElement content).render .lenient = .ok text ∧
            Node.unquote (Text.trimEndString text ++ "\n") = content := by
  have hrender : (quoteElement "a\x0cb").render .lenient = .ok "> a\n> b\n\n" := by decide +kernel
  have hback : Node.unquote (Text.trimEndString "> a\n> b\n\n" ++ "\n") = "a\nb" := by
    decide +kernel
  refine ⟨hrender, hback, fun hall => ?_⟩
  obtain ⟨text, htext, hcontent⟩ := hall "a\x0cb" (by decide) (by decide) (by decide)
  rw [hrender] at htext
  obtain rfl := Except.ok.inj htext
  rw [hback] at hcontent
  exact absurd hcontent (by decide)

end MarkdownSections
