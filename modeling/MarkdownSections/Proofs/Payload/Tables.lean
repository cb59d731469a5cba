import Mathlib.Data.List.TakeWhile
import MarkdownSections.Proofs.Payload.Items

/-!
# Bracketed tables are read back

What the lenient codec writes for a table, it reads back as that table without its empty rows,
whatever the cells are (`readTable_writeTable`).

The reader looks for its keys in the whole text, so the point is that no cell can be taken for a key
(`afterKey?_quote`). A quote inside a cell stands behind a backslash, and a key has neither quotes
nor backslashes in it. So a quoted key can only be found where a whole cell is that key, and then a
comma or a closing bracket follows where a key has its colon.
-/

set_option autoImplicit false

namespace MarkdownSections

namespace Bracket

/-! ## Keys -/

/-- A key without quotes and backslashes, and without the characters that stand behind a cell. -/
structure IsPlainKey (key : List Char) : Prop where
  ne_nil : key ≠ []
  quote_notMem : '"' ∉ key
  backslash_notMem : '\\' ∉ key
  comma_notMem : ',' ∉ key
  bracket_notMem : ']' ∉ key

theorem afterKeyHere?_of_not_prefix {key cs : List Char} (h : ¬ '"' :: (key ++ ['"']) <+: cs) :
    afterKeyHere? key cs = none := by
  have hprefix : ¬ ( '"' :: key ++ ['"']).isPrefixOf cs = true := by
    rwa [List.isPrefixOf_iff_prefix]
  exact if_neg hprefix

/-- Behind a quoted key, a colon is looked for. -/
theorem afterKeyHere?_quoted (key : List Char) {c : Char} (h : Text.isBlank c = false)
    (rest : List Char) :
    afterKeyHere? key ('"' :: (key ++ '"' :: c :: rest)) = if c = ':' then some rest else none := by
  have htext : '"' :: (key ++ '"' :: c :: rest) = ('"' :: key ++ ['"']) ++ c :: rest := by simp
  have hprefix : ('"' :: key ++ ['"']).isPrefixOf (('"' :: key ++ ['"']) ++ c :: rest) = true := by
    rw [List.isPrefixOf_iff_prefix]
    exact List.prefix_append _ _
  have htrim : Text.trimStart (c :: rest) = c :: rest :=
    List.dropWhile_cons_of_neg (by simp [h])
  rw [htext]
  refine (if_pos hprefix).trans ?_
  rw [List.drop_left, htrim]
  split
  · next heq =>
      obtain ⟨rfl, rfl⟩ := List.cons.inj heq
      rw [if_pos rfl]
  · next hne => rw [if_neg fun hc => hne rest (by rw [hc])]

theorem afterKey?_of_ne (key : List Char) {c : Char} (h : c ≠ '"') (cs : List Char) :
    afterKey? key (c :: cs) = afterKey? key cs := by
  have hnone : afterKeyHere? key (c :: cs) = none :=
    afterKeyHere?_of_not_prefix fun hprefix => h (List.cons_prefix_cons.mp hprefix).1.symm
  rw [afterKey?, hnone]

/-- A key is found where it stands between quotes with a colon behind them. -/
theorem afterKey?_self (key rest : List Char) :
    afterKey? key ('"' :: (key ++ '"' :: ':' :: rest)) = some rest := by
  rw [afterKey?, afterKeyHere?_quoted key (by decide), if_pos rfl]

/-- A key that stands at the start of a cell and in front of a quote is the whole cell. -/
theorem escaped_eq_of_startsWith_key {key cs rest : List Char} (hquote : '"' ∉ key)
    (hbackslash : '\\' ∉ key) (h : key ++ ['"'] <+: cs.flatMap escapeChar ++ '"' :: rest) :
    cs.flatMap escapeChar = key := by
  induction cs generalizing key with
  | nil =>
      cases key with
      | nil => rfl
      | cons k key =>
          -- the key would start with the quote behind the empty cell
          obtain ⟨hk, -⟩ := List.cons_prefix_cons.mp h
          exact absurd (hk ▸ List.mem_cons_self) hquote
  | cons c cs ih =>
      rw [List.flatMap_cons, List.append_assoc] at h
      rcases escapeChar_cases c with ⟨e, hescape, -⟩ | ⟨hself, -, hnequote⟩
      · -- an escape starts with a backslash, which is neither in the key nor a quote
        rw [hescape] at h
        cases key with
        | nil =>
            obtain ⟨heq, -⟩ := List.cons_prefix_cons.mp h
            exact absurd heq (by decide)
        | cons k key =>
            obtain ⟨hk, -⟩ := List.cons_prefix_cons.mp h
            exact absurd (hk ▸ List.mem_cons_self) hbackslash
      · rw [hself] at h
        cases key with
        | nil =>
            obtain ⟨heq, -⟩ := List.cons_prefix_cons.mp h
            exact absurd heq.symm hnequote
        | cons k key =>
            obtain ⟨rfl, hrest⟩ := List.cons_prefix_cons.mp h
            rw [List.flatMap_cons, hself,
              ih (fun hmem => hquote (List.mem_cons_of_mem k hmem))
                (fun hmem => hbackslash (List.mem_cons_of_mem k hmem)) hrest]
            rfl

/-- A character that follows cells, and neither a key nor the colon behind one starts with. -/
structure EndsCell (key : List Char) (c : Char) : Prop where
  not_blank : Text.isBlank c = false
  ne_colon : c ≠ ':'
  notMem : c ∉ key

section Keys

variable {key : List Char} {c : Char} (hkey : IsPlainKey key) (hc : EndsCell key c)

include hkey hc

/-- No key is found at a quote inside or in front of a cell: what follows the cell is no colon. -/
theorem afterKeyHere?_escaped (cs rest : List Char) :
    afterKeyHere? key ('"' :: (cs.flatMap escapeChar ++ '"' :: c :: rest)) = none := by
  by_cases hprefix : key ++ ['"'] <+: cs.flatMap escapeChar ++ '"' :: c :: rest
  · rw [escaped_eq_of_startsWith_key hkey.quote_notMem hkey.backslash_notMem hprefix,
      afterKeyHere?_quoted key hc.not_blank, if_neg hc.ne_colon]
  · exact afterKeyHere?_of_not_prefix fun h => hprefix (List.cons_prefix_cons.mp h).2

/-- No key is found inside a cell. -/
theorem afterKey?_escaped (cs rest : List Char) :
    afterKey? key (cs.flatMap escapeChar ++ '"' :: c :: rest) = afterKey? key (c :: rest) := by
  induction cs with
  | nil =>
      -- at the closing quote the key would start with the character behind the cell
      have hclosing : afterKeyHere? key ('"' :: c :: rest) = none := by
        refine afterKeyHere?_of_not_prefix fun h => ?_
        obtain ⟨k, ks, rfl⟩ := List.exists_cons_of_ne_nil hkey.ne_nil
        have hk := (List.cons_prefix_cons.mp (List.cons_prefix_cons.mp h).2).1
        exact hc.notMem (hk ▸ List.mem_cons_self)
      rw [List.flatMap_nil, List.nil_append, afterKey?, hclosing]
  | cons x cs ih =>
      rw [List.flatMap_cons, List.append_assoc]
      rcases escapeChar_cases x with ⟨e, hescape, -⟩ | ⟨hself, -, hnequote⟩
      · rw [hescape, List.cons_append, List.singleton_append, afterKey?_of_ne key (by decide)]
        by_cases he : e = '"'
        · rw [he, afterKey?, afterKeyHere?_escaped hkey hc]
          exact ih
        · rw [afterKey?_of_ne key he, ih]
      · rw [hself, List.singleton_append, afterKey?_of_ne key hnequote, ih]

theorem afterKey?_quote (cs rest : List Char) :
    afterKey? key (quote cs ++ c :: rest) = afterKey? key (c :: rest) := by
  have htext : quote cs ++ c :: rest = '"' :: (cs.flatMap escapeChar ++ '"' :: c :: rest) := by
    simp [quote]
  rw [htext, afterKey?, afterKeyHere?_escaped hkey hc, afterKey?_escaped hkey hc]

end Keys

/-- No key is found inside a list of cells. -/
theorem afterKey?_writeItems {key : List Char} (hkey : IsPlainKey key) (items : List (List Char))
    (rest : List Char) : afterKey? key (writeItems items ++ rest) = afterKey? key rest := by
  have hcomma : EndsCell key ',' := ⟨by decide, by decide, hkey.comma_notMem⟩
  have hbracket : EndsCell key ']' := ⟨by decide, by decide, hkey.bracket_notMem⟩
  -- The induction needs the items without the opening bracket, since only the first has it before.
  have hjoined : ∀ items : List (List Char),
      afterKey? key (joinWith [',', ' '] (items.map quote) ++ ']' :: rest) =
        afterKey? key rest := by
    intro items
    induction items with
    | nil => exact afterKey?_of_ne key (by decide) rest
    | cons item items ih =>
        cases items with
        | nil =>
            rw [List.map_singleton, joinWith_singleton, afterKey?_quote hkey hbracket,
              afterKey?_of_ne key (by decide)]
        | cons next items =>
            rw [List.map_cons, List.map_cons, joinWith_cons_cons, List.append_assoc,
              List.append_assoc, ← List.map_cons]
            change afterKey? key (quote item ++ ',' :: ' ' :: _) = _
            rw [afterKey?_quote hkey hcomma, afterKey?_of_ne key (by decide),
              afterKey?_of_ne key (by decide)]
            exact ih
  have htext : writeItems items ++ rest =
      '[' :: (joinWith [',', ' '] (items.map quote) ++ ']' :: rest) := by
    simp [writeItems]
  rw [htext, afterKey?_of_ne key (by decide), hjoined]

/-! ## Where the lists of a table start -/

/-- The rows of a written table and the bracket behind them. -/
def rowsText (rows : List (List (List Char))) : List Char :=
  joinWith [',', ' '] (rows.map writeItems) ++ [']']

/-- What stands behind the headers of a written table. -/
def behindHeaders (rows : List (List (List Char))) : List Char :=
  ',' :: ' ' :: '"' :: ("rows".toList ++ '"' :: ':' :: ' ' :: '[' :: (rowsText rows ++ ['}']))

theorem writeTable_eq (headers : List (List Char)) (rows : List (List (List Char))) :
    writeTable headers rows = '{' :: '"' :: ("headers".toList ++ '"' :: ':' :: ' ' ::
      (writeItems headers ++ behindHeaders rows)) := by
  have hheaders : quote "headers".toList = '"' :: ("headers".toList ++ ['"']) := by decide
  have hrows : quote "rows".toList = '"' :: ("rows".toList ++ ['"']) := by decide
  unfold writeTable behindHeaders rowsText
  rw [hheaders, hrows]
  simp only [List.cons_append, List.append_assoc, List.nil_append]

theorem arrayAfter?_headers (headers : List (List Char)) (rows : List (List (List Char))) :
    arrayAfter? "headers".toList (writeTable headers rows) =
      some (joinWith [',', ' '] (headers.map quote) ++ ']' :: behindHeaders rows) := by
  have hfound : afterKey? "headers".toList (writeTable headers rows) =
      some (' ' :: (writeItems headers ++ behindHeaders rows)) := by
    rw [writeTable_eq, afterKey?_of_ne _ (by decide), afterKey?_self]
  have hopen : (' ' :: (writeItems headers ++ behindHeaders rows)).dropWhile (· != '[') =
      '[' :: (joinWith [',', ' '] (headers.map quote) ++ ']' :: behindHeaders rows) := by
    simp [writeItems]
  unfold arrayAfter?
  rw [hfound, Option.bind_eq_bind, Option.bind_some, hopen]

theorem arrayAfter?_rows (headers : List (List Char)) (rows : List (List (List Char))) :
    arrayAfter? "rows".toList (writeTable headers rows) = some (rowsText rows ++ ['}']) := by
  have hkey : IsPlainKey "rows".toList := ⟨by decide, by decide, by decide, by decide, by decide⟩
  have hfound : afterKey? "rows".toList (writeTable headers rows) =
      some (' ' :: '[' :: (rowsText rows ++ ['}'])) := by
    -- the first key is another one, and the headers are none
    have hheaders : ∀ rest, afterKey? "rows".toList
        ('"' :: ("headers".toList ++ '"' :: ':' :: ' ' :: rest)) =
          afterKey? "rows".toList rest := by
      intro rest
      simp [afterKey?, afterKeyHere?]
    rw [writeTable_eq, afterKey?_of_ne _ (by decide), hheaders, afterKey?_writeItems hkey,
      behindHeaders, afterKey?_of_ne _ (by decide), afterKey?_of_ne _ (by decide), afterKey?_self]
  unfold arrayAfter?
  rw [hfound]
  rfl

/-! ## Rows -/

/-- The search for a closing bracket passes a whole list inside another one. -/
theorem passes_writeItems {depth : Nat} (h : 1 ≤ depth) (items : List (List Char)) :
    Passes depth (writeItems items) := by
  intro rest
  have hquotes : Passes (depth + 1) (joinWith [',', ' '] (items.map quote)) := by
    refine passes_joinWith fun text htext => ?_
    obtain ⟨item, -, rfl⟩ := List.mem_map.mp htext
    exact passes_quote (depth + 1) item
  have hopen : ∀ text, splitAtClose depth false false ('[' :: text) =
      passed ['['] (splitAtClose (depth + 1) false false text) := fun text => by
    simp [splitAtClose, passed]
  have hclose : splitAtClose (depth + 1) false false (']' :: rest) =
      passed [']'] (splitAtClose depth false false rest) := by
    have hdeep : ¬depth + 1 ≤ 1 := by omega
    simp [splitAtClose, passed, hdeep]
  have htext : writeItems items ++ rest =
      '[' :: (joinWith [',', ' '] (items.map quote) ++ ']' :: rest) := by
    simp [writeItems]
  rw [htext, hopen, hquotes, hclose, passed_passed, passed_passed]
  simp [writeItems]

theorem bracketBody_rowsText (rows : List (List (List Char))) (rest : List Char) :
    bracketBody (rowsText rows ++ rest) = joinWith [',', ' '] (rows.map writeItems) := by
  have hpasses : Passes 1 (joinWith [',', ' '] (rows.map writeItems)) := by
    refine passes_joinWith fun text htext => ?_
    obtain ⟨row, -, rfl⟩ := List.mem_map.mp htext
    exact passes_writeItems (Nat.le_refl 1) row
  unfold bracketBody rowsText
  rw [List.append_assoc, List.singleton_append, hpasses.splitAtClose_close]

theorem takeWhile_take_append_cons {skipped : List Char} (h : '[' ∉ skipped) (rest : List Char)
    {room : Nat} (hroom : skipped.length < room) :
    ((skipped ++ '[' :: rest).take room).takeWhile (· != '[') = skipped := by
  obtain ⟨k, rfl⟩ := Nat.exists_eq_add_of_lt hroom
  have htake : (skipped ++ '[' :: rest).take (skipped.length + k + 1) =
      skipped ++ '[' :: rest.take k := by
    rw [Nat.add_assoc, List.take_length_add_append, List.take_succ_cons]
  have hall : ∀ c ∈ skipped, (c != '[') = true := fun c hc => by
    simpa using fun heq : c = '[' => h (heq ▸ hc)
  rw [htake, List.takeWhile_append_of_pos hall, List.takeWhile_cons_of_neg (by decide),
    List.append_nil]

/-- Reading rows skips what stands in front of a row, reads the row and goes on behind it. -/
theorem readRows_writeItems (fuel : Nat) {skipped : List Char} (hskipped : '[' ∉ skipped)
    (row : List (List Char)) (rest : List Char) (room : Nat) :
    readRows (fuel + 1) (skipped ++ (writeItems row ++ rest))
        (skipped.length + (writeItems row).length + room) =
      if row.isEmpty then readRows fuel rest room else row :: readRows fuel rest room := by
  have hlength : (writeItems row).length = (joinWith [',', ' '] (row.map quote)).length + 2 := by
    simp [writeItems]
  have htext : skipped ++ (writeItems row ++ rest) =
      skipped ++ '[' :: (joinWith [',', ' '] (row.map quote) ++ ']' :: rest) := by
    simp [writeItems]
  have hbody : ∀ body : List Char,
      (skipped ++ '[' :: body).drop (skipped.length + 1) = body := fun body => by
    rw [List.drop_length_add_append]
    rfl
  -- The room reaches past the row, so none of the limits of the scan applies inside it.
  have hroom : ¬skipped.length + (writeItems row).length + room ≤ skipped.length := by omega
  have hleft : ¬skipped.length + (writeItems row).length + room - skipped.length - 1 <
      (joinWith [',', ' '] (row.map quote)).length := by omega
  have hrest : skipped.length + (writeItems row).length + room - skipped.length - 1 -
      (joinWith [',', ' '] (row.map quote)).length - 1 = room := by omega
  rw [readRows]
  dsimp only
  rw [htext, takeWhile_take_append_cons hskipped _ (by omega), hbody, splitAtClose_joinWith,
    if_neg hroom]
  dsimp only
  rw [if_neg hleft, hrest, quotedTexts_joinWith]
  cases row with
  | nil => rfl
  | cons cell row => rfl

/-- Where no row follows, none is read. -/
theorem readRows_of_notMem (fuel : Nat) {skipped : List Char} (hskipped : '[' ∉ skipped)
    (rest : List Char) : readRows fuel (skipped ++ rest) skipped.length = [] := by
  cases fuel with
  | zero => rfl
  | succ fuel =>
      have hall : ∀ c ∈ skipped, (c != '[') = true := fun c hc => by
        simpa using fun heq : c = '[' => hskipped (heq ▸ hc)
      have htake : ((skipped ++ rest).take skipped.length).takeWhile (· != '[') = skipped := by
        rw [List.take_left, List.takeWhile_eq_self_iff.mpr hall]
      rw [readRows]
      dsimp only
      rw [htake, if_pos (Nat.le_refl _)]

/-- Written rows are read back without the empty ones. -/
theorem readRows_joinWith (rows : List (List (List Char))) {skipped : List Char}
    (hskipped : '[' ∉ skipped) (rest : List Char) {fuel : Nat} (hfuel : rows.length < fuel) :
    readRows fuel (skipped ++ (joinWith [',', ' '] (rows.map writeItems) ++ rest))
        (skipped.length + (joinWith [',', ' '] (rows.map writeItems)).length) =
      rows.filter fun row => !row.isEmpty := by
  -- behind a row, the separator is what is skipped in front of the next one
  induction rows generalizing skipped fuel with
  | nil => exact readRows_of_notMem fuel hskipped rest
  | cons row rows ih =>
      obtain ⟨fuel, rfl⟩ := Nat.exists_eq_add_of_lt hfuel
      obtain ⟨separator, hseparator, hjoin⟩ : ∃ separator, '[' ∉ separator ∧
          joinWith [',', ' '] ((row :: rows).map writeItems) =
            writeItems row ++ (separator ++ joinWith [',', ' '] (rows.map writeItems)) :=
        ⟨_, by split <;> decide, joinWith_cons [',', ' '] (writeItems row) (rows.map writeItems)⟩
      have hread := readRows_writeItems (rows.length + 1 + fuel) hskipped row
        (separator ++ (joinWith [',', ' '] (rows.map writeItems) ++ rest))
        (separator.length + (joinWith [',', ' '] (rows.map writeItems)).length)
      rw [ih hseparator (by omega)] at hread
      rw [hjoin, List.length_append, List.length_append, ← Nat.add_assoc, List.append_assoc,
        List.append_assoc, List.length_cons, hread, List.filter_cons]
      cases row.isEmpty <;> rfl

/-! ## Tables -/

theorem length_le_length_joinWith (rows : List (List (List Char))) :
    rows.length ≤ (joinWith [',', ' '] (rows.map writeItems)).length := by
  induction rows with
  | nil => exact Nat.zero_le _
  | cons row rows ih =>
      have hrow : 2 ≤ (writeItems row).length := by simp [writeItems]
      rw [List.map_cons, joinWith_cons, List.length_append, List.length_append, List.length_cons]
      omega

/-- A written table is read back without its empty rows. -/
@[simp] theorem readTable_writeTable (headers : List (List Char)) (rows : List (List (List Char))) :
    readTable (writeTable headers rows) = (headers, rows.filter fun row => !row.isEmpty) := by
  have hheaders : readHeaders (writeTable headers rows) = headers := by
    unfold readHeaders
    rw [arrayAfter?_headers]
    dsimp only
    rw [bracketBody_joinWith, quotedTexts_joinWith]
  have hlength := length_le_length_joinWith rows
  have hfuel : rows.length < (rowsText rows ++ ['}']).length + 1 := by
    simp only [rowsText, List.length_append]
    omega
  have htext : rowsText rows ++ ['}'] =
      joinWith [',', ' '] (rows.map writeItems) ++ [']', '}'] := by
    simp [rowsText]
  have hnone : '[' ∉ ([] : List Char) := List.not_mem_nil
  have hrows := readRows_joinWith rows hnone [']', '}'] hfuel
  rw [List.nil_append, List.length_nil, Nat.zero_add, ← htext] at hrows
  -- the rows are searched up to their closing bracket, and the text ends with a brace behind it
  unfold readTable
  rw [hheaders, arrayAfter?_rows]
  dsimp only
  rw [bracketBody_rowsText, hrows]

end Bracket

theorem Codec.map_ofList_filter_map_toList (rows : List (List String)) :
    ((rows.map (·.map String.toList)).filter fun row => !row.isEmpty).map (·.map String.ofList) =
      rows.filter fun row => !row.isEmpty := by
  simp [List.filter_map, Function.comp_def]

/-- **Tables.** The lenient codec reads back the headers and the rows that it writes, without the
empty rows. -/
theorem Codec.parseTable_dumpTable (table : TableData) :
    parseTable .lenient (dumpTable .lenient table) =
      .ok ⟨table.headers, table.rows.filter fun row => !row.isEmpty⟩ := by
  unfold parseTable dumpTable
  rw [String.toList_ofList, Bracket.readTable_writeTable]
  dsimp only
  rw [Text.map_ofList_map_toList, map_ofList_filter_map_toList]

/-- Cells that look like keys or brackets stay cells. -/
example : Codec.parseTable .lenient (Codec.dumpTable .lenient
    ⟨["rows", "\"rows\": [["], [["headers", "]"], [], ["\\", ""]]⟩) =
      .ok ⟨["rows", "\"rows\": [["], [["headers", "]"], ["\\", ""]]⟩ := by
  decide +kernel

end MarkdownSections
