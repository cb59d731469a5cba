import MarkdownSections.Proofs.Json.Reader
import MarkdownSections.Proofs.Payload.Control
import MarkdownSections.Proofs.Payload.Tables

/-!
# Payloads between the codecs

Each codec reads back what it writes itself. What one codec writes, the other one reads back exactly
if no item and no cell holds a control character other than a tab, a line feed or a carriage return
(`Codec.parse_dump_iff`).

Both writers put the same text together around their quoted texts (`Codec.listText`,
`Codec.tableText`), and their quoted texts differ in those control characters only
(`Codec.quote_eq_quote`). The lenient writer leaves them as they are, and the strict reader takes no
text that holds one (`Json.controlFree_of_read`). The strict writer escapes them, and the lenient
reader, which takes the escape for other characters, finds no control character that does not stand
in the text (`Bracket.controlFree_of_readItems?`, `Bracket.controlFree_of_readTable`).
-/

set_option autoImplicit false

namespace MarkdownSections

/-- All cells of a table. -/
def TableData.cells (t : TableData) : List String :=
  t.headers ++ t.rows.flatten

/-! ## What both writers share -/

namespace Bracket

theorem subset_joinWith {text : List Char} {texts : List (List Char)} (htext : text ∈ texts)
    (separator : List Char) : text ⊆ joinWith separator texts := by
  induction texts with
  | nil => exact absurd htext List.not_mem_nil
  | cons first texts ih =>
      rw [joinWith_cons]
      rcases List.mem_cons.mp htext with rfl | htext
      · exact List.subset_append_left _ _
      · intro c hc
        exact List.mem_append_right _ (List.mem_append_right _ (ih htext hc))

theorem controlFree_joinWith {separator : List Char} (hseparator : Text.ControlFree separator)
    {texts : List (List Char)} (htexts : ∀ text ∈ texts, Text.ControlFree text) :
    Text.ControlFree (joinWith separator texts) := by
  induction texts with
  | nil => exact Text.controlFree_nil
  | cons first texts ih =>
      rw [joinWith_cons, Text.controlFree_append, Text.controlFree_append]
      refine ⟨htexts first List.mem_cons_self, ?_, ih fun text htext => ?_⟩
      · split
        · exact Text.controlFree_nil
        · exact hseparator
      · exact htexts text (List.mem_cons_of_mem first htext)

end Bracket

/-- The one-line text of a list joins the texts of its items. -/
theorem Json.compact_list (vs : List Json) :
    compact (.list vs) = '[' :: Bracket.joinWith [',', ' '] (vs.map compact) ++ [']'] := by
  have hitems : ∀ (v : Json) (vs : List Json), compact v ++ compactItems vs =
      Bracket.joinWith [',', ' '] ((v :: vs).map compact) ++ [']'] := by
    intro v vs
    induction vs generalizing v with
    | nil => simp [compactItems]
    | cons w vs ih =>
        rw [List.map_cons, List.map_cons, Bracket.joinWith_cons_cons, List.append_assoc,
          ← List.map_cons, ← ih]
        simp [compactItems]
  cases vs with
  | nil => rfl
  | cons v vs => exact congrArg ('[' :: ·) (hitems v vs)

namespace Codec

/-- A text between double quotes, as a codec writes it. -/
def quote : Codec → List Char → List Char
  | .lenient => Bracket.quote
  | .strict => Json.quote

/-- A list of texts, as a codec writes it. -/
def listText (codec : Codec) (items : List (List Char)) : List Char :=
  '[' :: Bracket.joinWith [',', ' '] (items.map codec.quote) ++ [']']

/-- A table, as a codec writes it. -/
def tableText (codec : Codec) (headers : List (List Char)) (rows : List (List (List Char))) :
    List Char :=
  '\x7b' :: codec.quote "headers".toList ++ ':' :: ' ' :: codec.listText headers ++ ',' :: ' ' ::
    codec.quote "rows".toList ++ ':' :: ' ' :: '[' ::
      Bracket.joinWith [',', ' '] (rows.map codec.listText) ++ [']', '\x7d']

theorem compact_texts (items : List String) :
    Json.compact (.list (items.map Json.text)) = listText .strict (items.map String.toList) := by
  have hquotes : (items.map Json.text).map Json.compact =
      (items.map String.toList).map Json.quote := by
    rw [List.map_map, List.map_map]
    rfl
  rw [Json.compact_list, hquotes]
  rfl

theorem dumpItems_eq (codec : Codec) (items : List String) :
    dumpItems codec items = String.ofList (listText codec (items.map String.toList)) := by
  cases codec with
  | lenient => rfl
  | strict => exact congrArg String.ofList (compact_texts items)

theorem dumpTable_eq (codec : Codec) (table : TableData) :
    dumpTable codec table = String.ofList (tableText codec (table.headers.map String.toList)
      (table.rows.map (·.map String.toList))) := by
  cases codec with
  | lenient => rfl
  | strict =>
      have hrows : Json.compact (.list (table.rows.map fun row => .list (row.map Json.text))) =
          '[' :: Bracket.joinWith [',', ' ']
            ((table.rows.map (·.map String.toList)).map (listText .strict)) ++ [']'] := by
        rw [Json.compact_list, List.map_map, List.map_map]
        exact congrArg (fun texts => '[' :: Bracket.joinWith [',', ' '] texts ++ [']'])
          (List.map_congr_left fun row _ => compact_texts row)
      -- around the headers and the rows, both notations spell out the same two keys
      refine congrArg String.ofList ?_
      simp [Json.compact, Json.compactEntries, hrows, compact_texts, tableText, quote]

/-! ## Where the writers agree -/

/-- Only bare control characters are escaped in different ways. -/
theorem escapeChar_eq_escapeChar {c : Char} (h : Text.isBareControl c = false) :
    Bracket.escapeChar c = Json.escapeChar c := by
  unfold Json.escapeChar
  split
  -- quotes, backslashes, line feeds, carriage returns and tabs have the same escapes
  · rfl
  · rfl
  · rfl
  · rfl
  · rfl
  -- a backspace and a form feed are bare control characters
  · exact absurd h (by decide)
  · exact absurd h (by decide)
  · next hquote hbackslash hfeed hreturn htab _ _ =>
      have hplain : ¬ c.toNat < 0x20 := by
        intro hsmall
        have hbare : Text.isBareControl c = true := by
          simpa [Text.isBareControl, hsmall, and_assoc] using And.intro htab ⟨hfeed, hreturn⟩
        exact absurd (h.symm.trans hbare) Bool.false_ne_true
      rw [if_neg hplain, Bracket.escapeChar, if_neg hbackslash, if_neg hquote, if_neg hfeed,
        if_neg hreturn, if_neg htab]

theorem quote_eq_quote {cs : List Char} (h : Text.ControlFree cs) (codec codec' : Codec) :
    codec.quote cs = codec'.quote cs := by
  have hescaped : cs.flatMap Bracket.escapeChar = cs.flatMap Json.escapeChar := by
    rw [List.flatMap_def, List.flatMap_def]
    exact congrArg List.flatten
      (List.map_congr_left fun c hc => escapeChar_eq_escapeChar (h c hc))
  have hquote : Bracket.quote cs = Json.quote cs := by
    unfold Bracket.quote Json.quote
    rw [hescaped]
  cases codec with
  | lenient =>
      cases codec' with
      | lenient => rfl
      | strict => exact hquote
  | strict =>
      cases codec' with
      | lenient => exact hquote.symm
      | strict => rfl

theorem listText_eq_listText {items : List (List Char)} (h : ∀ item ∈ items, Text.ControlFree item)
    (codec codec' : Codec) : codec.listText items = codec'.listText items := by
  unfold listText
  rw [List.map_congr_left fun item hitem => quote_eq_quote (h item hitem) codec codec']

theorem tableText_eq_tableText {headers : List (List Char)} {rows : List (List (List Char))}
    (hheaders : ∀ cell ∈ headers, Text.ControlFree cell)
    (hrows : ∀ row ∈ rows, ∀ cell ∈ row, Text.ControlFree cell) (codec codec' : Codec) :
    codec.tableText headers rows = codec'.tableText headers rows := by
  unfold tableText
  rw [listText_eq_listText hheaders codec codec',
    List.map_congr_left fun row hrow => listText_eq_listText (hrows row hrow) codec codec',
    quote_eq_quote (by decide) codec codec', quote_eq_quote (by decide) codec codec']

theorem dumpItems_eq_dumpItems {items : List String}
    (h : ∀ item ∈ items, Text.ControlFree item.toList) (codec codec' : Codec) :
    dumpItems codec items = dumpItems codec' items := by
  have hfree : ∀ text ∈ items.map String.toList, Text.ControlFree text := by
    intro text htext
    obtain ⟨item, hitem, rfl⟩ := List.mem_map.mp htext
    exact h item hitem
  rw [dumpItems_eq, dumpItems_eq, listText_eq_listText hfree codec codec']

theorem dumpTable_eq_dumpTable {table : TableData}
    (h : ∀ cell ∈ table.cells, Text.ControlFree cell.toList) (codec codec' : Codec) :
    dumpTable codec table = dumpTable codec' table := by
  have hheaders : ∀ text ∈ table.headers.map String.toList, Text.ControlFree text := by
    intro text htext
    obtain ⟨cell, hcell, rfl⟩ := List.mem_map.mp htext
    exact h cell (List.mem_append_left _ hcell)
  have hrows : ∀ texts ∈ table.rows.map (·.map String.toList), ∀ text ∈ texts,
      Text.ControlFree text := by
    intro texts htexts text htext
    obtain ⟨row, hrow, rfl⟩ := List.mem_map.mp htexts
    obtain ⟨cell, hcell, rfl⟩ := List.mem_map.mp htext
    exact h cell (List.mem_append_right _ (List.mem_flatten_of_mem hrow hcell))
  rw [dumpTable_eq, dumpTable_eq, tableText_eq_tableText hheaders hrows codec codec']

/-! ## Each codec by itself -/

theorem strictValue_compact {v : Json} (h : Json.ReadsBack readRules readRules.maxNesting v) :
    strictValue v.toCompactString = .ok (some v) := by
  unfold strictValue Json.toCompactString
  rw [String.toList_ofList, h.read_compact]

theorem readsBack_texts (rules : Json.ReadRules) (room : Nat) (items : List String) :
    Json.ReadsBack rules (room + 1) (.list (items.map Json.text)) := by
  refine Json.readsBack_list fun v hv => ?_
  obtain ⟨item, -, rfl⟩ := List.mem_map.mp hv
  exact Json.readsBack_text rules room item

theorem textItems_map_text (items : List String) : textItems (items.map Json.text) = items := by
  induction items with
  | nil => rfl
  | cons item items ih => exact congrArg (item :: ·) ih

theorem map_plainText_map_text (items : List String) :
    (items.map Json.text).map Json.plainText = items := by
  rw [List.map_map]
  exact List.map_id items

/-- The members of a list are its items, also when it is empty and counts as absent. -/
theorem members_list (vs : List Json) : members (.list vs) = .ok vs := by
  cases vs <;> rfl

theorem rowsOf_map_list (rows : List (List String)) :
    rowsOf (rows.map fun row => .list (row.map Json.text)) =
      rows.filter fun row => !row.isEmpty := by
  induction rows with
  | nil => rfl
  | cons row rows ih =>
      cases row with
      -- an empty row is left out on both sides
      | nil => exact ih
      | cons cell row =>
          rw [List.filter_cons_of_pos rfl, ← ih]
          exact congrArg (· :: _) (map_plainText_map_text (cell :: row))

/-- Each codec reads back the items that it writes. -/
theorem parseItems_dumpItems_self (codec : Codec) (items : List String) :
    parseItems codec (dumpItems codec items) = .ok (some items) := by
  cases codec with
  | lenient => exact parseItems_dumpItems items
  | strict =>
      have hvalue := strictValue_compact (readsBack_texts readRules 989 items)
      unfold parseItems dumpItems
      rw [hvalue]
      exact congrArg (fun texts => Except.ok (some texts)) (textItems_map_text items)

/-- The value that the strict codec writes for a table. -/
def tableValue (table : TableData) : Json :=
  .map [("headers", .list (table.headers.map Json.text)),
    ("rows", .list (table.rows.map fun row => .list (row.map Json.text)))]

theorem readsBack_tableValue (rules : Json.ReadRules) (room : Nat) (table : TableData) :
    Json.ReadsBack rules (room + 3) (tableValue table) := by
  refine Json.readsBack_map ?_ (show ["headers", "rows"].Nodup by decide)
  intro e he
  rcases List.mem_cons.mp he with rfl | he
  · exact readsBack_texts rules (room + 1) table.headers
  · obtain rfl := List.mem_singleton.mp he
    refine Json.readsBack_list fun v hv => ?_
    obtain ⟨row, -, rfl⟩ := List.mem_map.mp hv
    exact readsBack_texts rules room row

/-- Each codec reads back the tables that it writes, without their empty rows. -/
theorem parseTable_dumpTable_self (codec : Codec) (table : TableData) :
    parseTable codec (dumpTable codec table) =
      .ok ⟨table.headers, table.rows.filter fun row => !row.isEmpty⟩ := by
  cases codec with
  | lenient =>
      unfold parseTable dumpTable
      rw [String.toList_ofList, Bracket.readTable_writeTable]
      dsimp only
      rw [Text.map_ofList_map_toList, map_ofList_filter_map_toList]
  | strict =>
      -- the map stands in no collection, its lists in one, and the rows in two
      have hvalue : strictValue (dumpTable .strict table) = .ok (some (tableValue table)) :=
        strictValue_compact (readsBack_tableValue readRules 987 table)
      have hread : parseTable .strict (dumpTable .strict table) = (do
          let headers ← members (.list (table.headers.map Json.text))
          let rows ← members (.list (table.rows.map fun row => .list (row.map Json.text)))
          return ⟨headers.map Json.plainText, rowsOf rows⟩) := by
        unfold parseTable
        rw [hvalue]
        rfl
      rw [hread, members_list, members_list, ← rowsOf_map_list]
      exact congrArg (fun headers => Except.ok (⟨headers, rowsOf _⟩ : TableData))
        (map_plainText_map_text table.headers)

theorem parseTable_dumpTable_of_full (codec : Codec) {table : TableData}
    (h : ∀ row ∈ table.rows, row ≠ []) : parseTable codec (dumpTable codec table) = .ok table := by
  have hkept : table.rows.filter (fun row => !row.isEmpty) = table.rows := by
    rw [List.filter_eq_self]
    intro row hrow
    simpa using h row hrow
  rw [parseTable_dumpTable_self, hkept]

/-! ## Control characters in what is written -/

/-- The lenient writer leaves a bare control character as it is. -/
theorem escapeChar_of_isBareControl {c : Char} (h : Text.isBareControl c = true) :
    Bracket.escapeChar c = [c] := by
  have hne : ∀ d, Text.isBareControl d = false → c ≠ d := by
    rintro d hd rfl
    exact absurd (hd.symm.trans h) Bool.false_ne_true
  rw [Bracket.escapeChar, if_neg (hne '\\' (by decide)), if_neg (hne '"' (by decide)),
    if_neg (hne '\n' (by decide)), if_neg (hne '\r' (by decide)), if_neg (hne '\t' (by decide))]

theorem controlsIn_quote_lenient (cs : List Char) : Text.ControlsIn cs (quote .lenient cs) := by
  intro c hc hbare
  have hescaped : c ∈ cs.flatMap Bracket.escapeChar := by
    refine List.mem_flatMap.mpr ⟨c, hc, ?_⟩
    rw [escapeChar_of_isBareControl hbare]
    exact List.mem_singleton_self c
  exact List.mem_append_left _ (List.mem_cons_of_mem _ hescaped)

theorem controlsIn_listText_lenient {items : List (List Char)} {item : List Char}
    (hitem : item ∈ items) : Text.ControlsIn item (listText .lenient items) := by
  have hquote : quote .lenient item ∈ items.map (quote .lenient) := List.mem_map_of_mem hitem
  have hjoined : quote .lenient item ⊆ listText .lenient items := by
    intro c hc
    have hin := Bracket.subset_joinWith hquote [',', ' '] hc
    exact List.mem_append_left _ (List.mem_cons_of_mem _ hin)
  exact (controlsIn_quote_lenient item).trans (Text.ControlsIn.of_subset hjoined)

/-- The cells of a table stand in the text that the lenient writer makes of it. -/
theorem controlsIn_tableText_lenient {headers : List (List Char)} {rows : List (List (List Char))}
    {cell : List Char} (hcell : cell ∈ headers ++ rows.flatten) :
    Text.ControlsIn cell (tableText .lenient headers rows) := by
  rcases List.mem_append.mp hcell with hcell | hcell
  · refine (controlsIn_listText_lenient hcell).trans (Text.ControlsIn.of_subset fun c hc => ?_)
    simp [tableText, hc]
  · obtain ⟨row, hrow, hcell⟩ := List.mem_flatten.mp hcell
    have htext : listText .lenient row ∈ rows.map (listText .lenient) := List.mem_map_of_mem hrow
    refine (controlsIn_listText_lenient hcell).trans (Text.ControlsIn.of_subset fun c hc => ?_)
    have hin := Bracket.subset_joinWith htext [',', ' '] hc
    simp [tableText, hin]

/-- The strict writer escapes every control character. -/
theorem controlFree_escapeChar (c : Char) : Text.ControlFree (Json.escapeChar c) := by
  rcases Json.escapeChar_cases c with ⟨e, hescape, hshort⟩ | ⟨hescape, hcontrol⟩ |
    ⟨hself, -, -, hplain⟩
  · rw [hescape]
    simpa using ⟨by decide, Json.isBareControl_of_shortEscape? hshort⟩
  · obtain ⟨a, b, c', d, hdigits, hnumber⟩ := Json.hexDigits_control hcontrol
    rw [hescape, hdigits]
    have hfree := Json.controlFree_of_hexNumber? hnumber
    rw [Text.controlFree_cons, Text.controlFree_cons]
    exact ⟨by decide, by decide, hfree⟩
  · rw [hself]
    simpa using Json.isBareControl_of_le hplain

theorem controlFree_quote_strict (cs : List Char) : Text.ControlFree (quote .strict cs) := by
  have hescaped : Text.ControlFree (cs.flatMap Json.escapeChar) := by
    intro x hx
    obtain ⟨c, -, hxc⟩ := List.mem_flatMap.mp hx
    exact controlFree_escapeChar c x hxc
  change Text.ControlFree ('"' :: cs.flatMap Json.escapeChar ++ ['"'])
  rw [Text.controlFree_append, Text.controlFree_cons]
  exact ⟨⟨by decide, hescaped⟩, by decide⟩

theorem controlFree_listText_strict (items : List (List Char)) :
    Text.ControlFree (listText .strict items) := by
  have hjoined : Text.ControlFree
      (Bracket.joinWith [',', ' '] (items.map (quote .strict))) := by
    refine Bracket.controlFree_joinWith (by decide) fun text htext => ?_
    obtain ⟨item, -, rfl⟩ := List.mem_map.mp htext
    exact controlFree_quote_strict item
  unfold listText
  rw [Text.controlFree_append, Text.controlFree_cons]
  exact ⟨⟨by decide, hjoined⟩, by decide⟩

theorem controlFree_tableText_strict (headers : List (List Char)) (rows : List (List (List Char))) :
    Text.ControlFree (tableText .strict headers rows) := by
  have hjoined : Text.ControlFree
      (Bracket.joinWith [',', ' '] (rows.map (listText .strict))) := by
    refine Bracket.controlFree_joinWith (by decide) fun text htext => ?_
    obtain ⟨row, -, rfl⟩ := List.mem_map.mp htext
    exact controlFree_listText_strict row
  unfold tableText
  simp only [Text.controlFree_append, Text.controlFree_cons, Text.controlFree_nil, and_true]
  simp only [controlFree_listText_strict, controlFree_quote_strict, hjoined]
  decide

/-! ## Control characters in what is read -/

theorem controlFree_of_strictValue {content : String} {v : Json}
    (h : strictValue content = .ok (some v)) : Text.ControlFree content.toList := by
  unfold strictValue at h
  split at h
  · next hread => exact Json.controlFree_of_read hread
  · cases h
  · cases h
  · cases h

/-- Where the strict codec finds items, the text is free of bare control characters. -/
theorem controlFree_of_parseItems_strict {content : String} {items : List String}
    (h : parseItems .strict content = .ok (some items)) : Text.ControlFree content.toList := by
  unfold parseItems at h
  match hvalue : strictValue content with
  | .error fault =>
      rw [hvalue] at h
      cases h
  | .ok none =>
      rw [hvalue] at h
      cases h
  | .ok (some v) => exact controlFree_of_strictValue hvalue

/-- Where the strict codec finds cells, the text is free of bare control characters. -/
theorem controlFree_of_parseTable_strict {content : String} {table : TableData}
    (h : parseTable .strict content = .ok table) {cell : String} (hcell : cell ∈ table.cells) :
    Text.ControlFree content.toList := by
  unfold parseTable at h
  match hvalue : strictValue content with
  | .error fault =>
      rw [hvalue] at h
      cases h
  | .ok none =>
      -- an absent payload has no cells
      rw [hvalue] at h
      cases h
      exact absurd hcell List.not_mem_nil
  | .ok (some v) => exact controlFree_of_strictValue hvalue

/-- The items that the lenient codec finds are as free of bare control characters as the text. -/
theorem controlFree_of_parseItems_lenient {content : String} {items : List String}
    (hcontent : Text.ControlFree content.toList)
    (h : parseItems .lenient content = .ok (some items)) :
    ∀ item ∈ items, Text.ControlFree item.toList := by
  intro item hitem
  obtain ⟨texts, hread, rfl⟩ := Option.map_eq_some_iff.mp (Except.ok.inj h)
  obtain ⟨text, htext, rfl⟩ := List.mem_map.mp hitem
  rw [String.toList_ofList]
  exact Bracket.controlFree_of_readItems? hcontent hread text htext

theorem controlFree_of_parseTable_lenient {content : String} {table : TableData}
    (hcontent : Text.ControlFree content.toList) (h : parseTable .lenient content = .ok table) :
    ∀ cell ∈ table.cells, Text.ControlFree cell.toList := by
  intro cell hcell
  obtain ⟨hheaders, hrows⟩ := Bracket.controlFree_of_readTable hcontent
  obtain rfl := Except.ok.inj h
  rcases List.mem_append.mp hcell with hcell | hcell
  · obtain ⟨text, htext, rfl⟩ := List.mem_map.mp hcell
    rw [String.toList_ofList]
    exact hheaders text htext
  · obtain ⟨row, hrow, hcell⟩ := List.mem_flatten.mp hcell
    obtain ⟨texts, htexts, rfl⟩ := List.mem_map.mp hrow
    obtain ⟨text, htext, rfl⟩ := List.mem_map.mp hcell
    rw [String.toList_ofList]
    exact hrows texts htexts text htext

/-! ## Exchange -/

/-- Items that one codec wrote and the other one read back have no bare control characters. -/
theorem controlFree_of_parseItems_dumpItems {writer reader : Codec} (hne : writer ≠ reader)
    {items : List String} (h : parseItems reader (dumpItems writer items) = .ok (some items)) :
    ∀ item ∈ items, Text.ControlFree item.toList := by
  rw [dumpItems_eq] at h
  cases writer with
  | lenient =>
      cases reader with
      | lenient => exact absurd rfl hne
      | strict =>
          -- the strict reader takes no text with control characters, and the items stand in it
          intro item hitem
          have htext := controlFree_of_parseItems_strict h
          rw [String.toList_ofList] at htext
          exact (controlsIn_listText_lenient (List.mem_map_of_mem hitem)).controlFree htext
  | strict =>
      cases reader with
      | lenient =>
          -- the strict writer leaves no control characters, and the lenient reader makes none
          have htext : Text.ControlFree
              (String.ofList (listText .strict (items.map String.toList))).toList := by
            rw [String.toList_ofList]
            exact controlFree_listText_strict _
          exact controlFree_of_parseItems_lenient htext h
      | strict => exact absurd rfl hne

theorem controlFree_of_parseTable_dumpTable {writer reader : Codec} (hne : writer ≠ reader)
    {table : TableData} (h : parseTable reader (dumpTable writer table) = .ok table) :
    ∀ cell ∈ table.cells, Text.ControlFree cell.toList := by
  rw [dumpTable_eq] at h
  cases writer with
  | lenient =>
      cases reader with
      | lenient => exact absurd rfl hne
      | strict =>
          intro cell hcell
          have htext := controlFree_of_parseTable_strict h hcell
          -- The lenient text holds the controls of its cells as they are, and the strict reader
          -- took it.
          have hmem : cell.toList ∈ table.headers.map String.toList ++
              (table.rows.map (·.map String.toList)).flatten := by
            rw [← List.map_flatten, ← List.map_append]
            exact List.mem_map_of_mem hcell
          rw [String.toList_ofList] at htext
          exact (controlsIn_tableText_lenient hmem).controlFree htext
  | strict =>
      cases reader with
      | lenient =>
          -- The strict writer escapes controls, and nothing read from a text without them has any.
          have htext : Text.ControlFree (String.ofList
              (tableText .strict (table.headers.map String.toList)
                (table.rows.map (·.map String.toList)))).toList := by
            rw [String.toList_ofList]
            exact controlFree_tableText_strict _ _
          exact controlFree_of_parseTable_lenient htext h
      | strict => exact absurd rfl hne

/-- **Exchange.** The items that one codec writes are read back, by the same codec always and by
the other one exactly if they hold no control characters other than tabs, line feeds and carriage
returns. The same goes for the cells of a table whose rows are not empty. -/
theorem parse_dump_iff (writer reader : Codec) :
    (∀ items : List String, parseItems reader (dumpItems writer items) = .ok (some items) ↔
      writer = reader ∨ ∀ item ∈ items, Text.ControlFree item.toList) ∧
    ∀ table : TableData, (∀ row ∈ table.rows, row ≠ []) →
      (parseTable reader (dumpTable writer table) = .ok table ↔
        writer = reader ∨ ∀ cell ∈ table.cells, Text.ControlFree cell.toList) := by
  constructor
  · intro items
    constructor
    · intro h
      by_cases heq : writer = reader
      · exact Or.inl heq
      · exact Or.inr (controlFree_of_parseItems_dumpItems heq h)
    · rintro (rfl | hfree)
      · exact parseItems_dumpItems_self writer items
      · rw [dumpItems_eq_dumpItems hfree writer reader]
        exact parseItems_dumpItems_self reader items
  · intro table hrows
    have hself : ∀ codec, parseTable codec (dumpTable codec table) = .ok table := by
      intro codec
      have hfilter : table.rows.filter (fun row => !row.isEmpty) = table.rows := by
        rw [List.filter_eq_self]
        intro row hrow
        simpa using hrows row hrow
      rw [parseTable_dumpTable_self, hfilter]
    constructor
    · intro h
      by_cases heq : writer = reader
      · exact Or.inl heq
      · exact Or.inr (controlFree_of_parseTable_dumpTable heq h)
    · rintro (rfl | hfree)
      · exact hself writer
      · rw [dumpTable_eq_dumpTable hfree writer reader]
        exact hself reader

theorem parse_dump_iff_sample :
    (∀ row ∈ [["\"", "\t"]], row ≠ []) ∧
      parseTable .strict (dumpTable .lenient ⟨["é"], [["\"", "\t"]]⟩) =
        .ok ⟨["é"], [["\"", "\t"]]⟩ ∧
      parseTable .lenient (dumpTable .strict ⟨["é"], [["\"", "\t"]]⟩) =
        .ok ⟨["é"], [["\"", "\t"]]⟩ := by
  have hrows : ∀ row ∈ (⟨["é"], [["\"", "\t"]]⟩ : TableData).rows, row ≠ [] := by decide
  have hfree : ∀ cell ∈ (⟨["é"], [["\"", "\t"]]⟩ : TableData).cells,
      Text.ControlFree cell.toList := by decide
  exact ⟨hrows, ((parse_dump_iff .lenient .strict).2 _ hrows).mpr (Or.inr hfree),
    ((parse_dump_iff .strict .lenient).2 _ hrows).mpr (Or.inr hfree)⟩

/-- A start-of-heading character is lost between the codecs: as the lenient codec writes it, the
strict one reads nothing, and as the strict codec writes it, the lenient one reads letters and
digits. -/
theorem not_parse_dump_startOfHeading :
    parseItems .strict (dumpItems .lenient ["\x01"]) = .ok none ∧
      parseItems .lenient (dumpItems .strict ["\x01"]) = .ok (some ["u0001"]) ∧
      ¬ ∀ (writer reader : Codec) (items : List String),
        parseItems reader (dumpItems writer items) = .ok (some items) := by
  have hstrict : parseItems .strict (dumpItems .lenient ["\x01"]) = .ok none := rfl
  have hlenient : parseItems .lenient (dumpItems .strict ["\x01"]) = .ok (some ["u0001"]) := rfl
  refine ⟨hstrict, hlenient, fun hall => ?_⟩
  have hback := hall .lenient .strict ["\x01"]
  rw [hstrict] at hback
  cases hback

end Codec

end MarkdownSections
