import Mathlib.Data.List.TakeWhile
import MarkdownSections.Proofs.Payload.Items
import MarkdownSections.Proofs.Text.Blank

/-!
# Lists in longer and in cut texts

A written list is read back from any text that starts with it, blanks in front or not
(`readItems?_around`). Of a text that ends too early, reading gives the items whose closing quotes
it still has (`readItems?_take`): behind a cut no bracket closes the list, so all of the text is
searched for quoted texts, and the open one at its end is dropped.

Blanks at the end of a text are trimmed before it is read. That does not show, because no blank is
a quote or a bracket (`quotedTexts_bracketBody_append`).
-/

set_option autoImplicit false

namespace MarkdownSections

namespace Bracket

/-! ## Scans of longer texts -/

/-- What the search for a closing bracket does with one character: it ends there, or passes the
character and goes on, whatever follows. -/
theorem splitAtClose_cons (depth : Nat) (inside escaped : Bool) (c : Char) :
    (c = ']' ∧ ∀ cs, splitAtClose depth inside escaped (c :: cs) = some ([], cs)) ∨
      ∃ depth' inside' escaped', ∀ cs, splitAtClose depth inside escaped (c :: cs) =
        passed [c] (splitAtClose depth' inside' escaped' cs) := by
  -- One case for each branch of the scan, in its order: only a bracket at the outer depth ends it.
  by_cases hescaped : escaped = true
  · exact Or.inr ⟨depth, inside, false, fun cs => by simp [splitAtClose, passed, hescaped]⟩
  by_cases hbackslash : c = '\\'
  · exact Or.inr ⟨depth, inside, true, fun cs => by
      simp [splitAtClose, passed, hescaped, hbackslash]⟩
  by_cases hquote : c = '"'
  · exact Or.inr ⟨depth, !inside, false, fun cs => by
      simp [splitAtClose, passed, hescaped, hquote]⟩
  by_cases hinside : inside = true
  · exact Or.inr ⟨depth, true, false, fun cs => by
      simp [splitAtClose, passed, hescaped, hbackslash, hquote, hinside]⟩
  by_cases hopen : c = '['
  · exact Or.inr ⟨depth + 1, false, false, fun cs => by
      simp [splitAtClose, passed, hescaped, hinside, hopen]⟩
  by_cases hclose : c = ']'
  · by_cases hdepth : depth ≤ 1
    · exact Or.inl ⟨hclose, fun cs => by simp [splitAtClose, hescaped, hinside, hclose, hdepth]⟩
    · exact Or.inr ⟨depth - 1, false, false, fun cs => by
        simp [splitAtClose, passed, hescaped, hinside, hclose, hdepth]⟩
  · exact Or.inr ⟨depth, false, false, fun cs => by
      simp [splitAtClose, passed, hescaped, hbackslash, hquote, hinside, hopen, hclose]⟩

/-- A closing bracket that is found is found in any longer text. -/
theorem splitAtClose_append {depth : Nat} {inside escaped : Bool} {cs front rest : List Char}
    (h : splitAtClose depth inside escaped cs = some (front, rest)) (more : List Char) :
    splitAtClose depth inside escaped (cs ++ more) = some (front, rest ++ more) := by
  induction cs generalizing depth inside escaped front with
  | nil => simp [splitAtClose] at h
  | cons c cs ih =>
      rw [List.cons_append]
      -- Either the first character ends the scan, or it is passed on the way to the same end.
      rcases splitAtClose_cons depth inside escaped c with ⟨-, hend⟩ | ⟨d, i, e, hpass⟩
      · rw [hend, Option.some.injEq, Prod.mk.injEq] at h
        obtain ⟨rfl, rfl⟩ := h
        exact hend _
      · rw [hpass] at h ⊢
        cases hcs : splitAtClose d i e cs with
        | none => rw [hcs] at h; cases h
        | some found =>
            obtain ⟨front', rest'⟩ := found
            rw [hcs] at h
            obtain ⟨rfl, rfl⟩ : c :: front' = front ∧ rest' = rest := by
              simpa [passed] using h
            rw [ih hcs]
            rfl

/-- A text without brackets adds no closing one. -/
theorem splitAtClose_eq_none_of_notMem {cs : List Char} (h : ']' ∉ cs) (depth : Nat)
    (inside escaped : Bool) : splitAtClose depth inside escaped cs = none := by
  induction cs generalizing depth inside escaped with
  | nil => rfl
  | cons c cs ih =>
      rcases splitAtClose_cons depth inside escaped c with ⟨hclose, -⟩ | ⟨d, i, e, hpass⟩
      · exact absurd (hclose ▸ List.mem_cons_self) h
      · rw [hpass, ih (fun hmem => h (List.mem_cons_of_mem c hmem))]
        rfl

theorem splitAtClose_append_eq_none {cs more : List Char} (hmore : ']' ∉ more) {depth : Nat}
    {inside escaped : Bool} (h : splitAtClose depth inside escaped cs = none) :
    splitAtClose depth inside escaped (cs ++ more) = none := by
  induction cs generalizing depth inside escaped with
  | nil => exact splitAtClose_eq_none_of_notMem hmore depth inside escaped
  | cons c cs ih =>
      rw [List.cons_append]
      rcases splitAtClose_cons depth inside escaped c with ⟨-, hend⟩ | ⟨d, i, e, hpass⟩
      · rw [hend] at h
        cases h
      · rw [hpass] at h ⊢
        cases hcs : splitAtClose d i e cs with
        | none => rw [ih hcs]; rfl
        | some found => rw [hcs] at h; cases h

/-- A text without quotes adds no quoted text. -/
theorem quotedTextsFrom_append {more : List Char} (hmore : '"' ∉ more) (current : List Char)
    (inside escaped : Bool) (cs : List Char) :
    quotedTextsFrom current inside escaped (cs ++ more) =
      quotedTextsFrom current inside escaped cs := by
  induction cs generalizing current inside escaped with
  | nil =>
      induction more generalizing current inside escaped with
      | nil => rfl
      | cons c more ih =>
          have hc : c ≠ '"' := fun heq => hmore (heq ▸ List.mem_cons_self)
          have hrest := ih (fun hmem => hmore (List.mem_cons_of_mem c hmem))
          rw [List.nil_append] at hrest ⊢
          simp [quotedTextsFrom, hc, hrest]
  | cons c cs ih => simp [quotedTextsFrom, ih]

/-- Characters that are neither quotes nor closing brackets can be added at the end of a text that
is read. -/
theorem quotedTexts_bracketBody_append {more : List Char} (hquote : '"' ∉ more)
    (hclose : ']' ∉ more) (cs : List Char) :
    quotedTexts (bracketBody (cs ++ more)) = quotedTexts (bracketBody cs) := by
  unfold bracketBody
  cases hcs : splitAtClose 1 false false cs with
  | none =>
      rw [splitAtClose_append_eq_none hclose hcs]
      exact quotedTextsFrom_append hquote [] false false cs
  | some found => rw [splitAtClose_append hcs more]

theorem quotedTexts_bracketBody_trimEnd (cs : List Char) :
    quotedTexts (bracketBody (Text.trimEnd cs)) = quotedTexts (bracketBody cs) := by
  obtain ⟨dropped, hcs, hblank⟩ := Text.exists_dropEndWhile_append Text.isBlank cs
  have hquote : '"' ∉ dropped := fun hmem => absurd (hblank _ hmem) (by decide)
  have hclose : ']' ∉ dropped := fun hmem => absurd (hblank _ hmem) (by decide)
  have happend := quotedTexts_bracketBody_append hquote hclose (Text.trimEnd cs)
  rw [← happend]
  exact congrArg (fun text => quotedTexts (bracketBody text)) hcs.symm

/-! ## Lists in longer texts -/

theorem trimStart_append_cons {blanks : List Char} (hblanks : ∀ c ∈ blanks, Text.isBlank c = true)
    {c : Char} (hc : Text.isBlank c = false) (rest : List Char) :
    Text.trimStart (blanks ++ c :: rest) = c :: rest := by
  unfold Text.trimStart
  rw [List.dropWhile_append_of_pos hblanks, List.dropWhile_cons_of_neg (by simp [hc])]

/-- Behind blanks and an opening bracket, what is read is the body of the list. -/
theorem readItems?_bracket {blanks : List Char} (hblanks : ∀ c ∈ blanks, Text.isBlank c = true)
    (cs : List Char) :
    readItems? (blanks ++ '[' :: cs) = some (quotedTexts (bracketBody cs)) := by
  have hbracket : Text.isBlank '[' = false := by decide
  have hend : Text.trimEnd ('[' :: cs) = '[' :: Text.trimEnd cs :=
    Text.dropEndWhile_append_cons hbracket [] cs
  unfold readItems? Text.trim
  rw [trimStart_append_cons hblanks hbracket, hend]
  exact congrArg some (quotedTexts_bracketBody_trimEnd cs)

/-- A written list is read back with blanks in front of it and any text behind it. -/
theorem readItems?_around {blanks : List Char} (hblanks : ∀ c ∈ blanks, Text.isBlank c = true)
    (items : List (List Char)) (rest : List Char) :
    readItems? (blanks ++ writeItems items ++ rest) = some items := by
  have htext : blanks ++ writeItems items ++ rest =
      blanks ++ '[' :: (joinWith [',', ' '] (items.map quote) ++ ']' :: rest) := by
    simp [writeItems]
  rw [htext, readItems?_bracket hblanks, bracketBody_joinWith, quotedTexts_joinWith]

/-! ## Cut lists -/

/-- A written list up to and with the closing quote of its item number `i`. -/
def throughItem (items : List (List Char)) (i : Nat) : List Char :=
  '[' :: joinWith [',', ' '] ((items.take (i + 1)).map quote)

/-- The number of items whose closing quotes are among the first `n` characters of a written
list. -/
def closedWithin (items : List (List Char)) (n : Nat) : Nat :=
  (List.range items.length).countP fun i => (throughItem items i).length ≤ n

theorem length_quote (item : List Char) :
    (quote item).length = (item.flatMap escapeChar).length + 2 := by
  simp [quote]

theorem two_le_length_throughItem {items : List (List Char)} (h : items ≠ []) (i : Nat) :
    2 ≤ (throughItem items i).length := by
  obtain ⟨item, items, rfl⟩ := List.exists_cons_of_ne_nil h
  have hitem := length_quote item
  unfold throughItem
  rw [List.take_succ_cons, List.map_cons, joinWith_cons, List.length_cons, List.length_append]
  omega

theorem throughItem_zero (item : List Char) (items : List (List Char)) :
    throughItem (item :: items) 0 = '[' :: quote item := by
  simp [throughItem]

theorem length_throughItem_succ (item : List Char) {items : List (List Char)} (h : items ≠ [])
    (i : Nat) : (throughItem (item :: items) (i + 1)).length =
      (quote item).length + 2 + (throughItem items i).length := by
  obtain ⟨next, items, rfl⟩ := List.exists_cons_of_ne_nil h
  unfold throughItem
  rw [List.take_succ_cons, List.take_succ_cons, List.map_cons, List.map_cons, joinWith_cons_cons,
    ← List.map_cons]
  simp only [List.length_cons, List.length_append, List.length_nil]
  omega

/-- Whether the first item is closed, and how many of the others are. -/
theorem closedWithin_cons (item : List Char) (items : List (List Char)) (n : Nat) :
    closedWithin (item :: items) (n + 1) =
      if (quote item).length ≤ n then
        closedWithin items (n - (quote item).length - 2 + 1) + 1
      else 0 := by
  -- The first item counts by its own length, each later one by its place among the items behind.
  have hfirst : ((throughItem (item :: items) 0).length ≤ n + 1) ↔ (quote item).length ≤ n := by
    rw [throughItem_zero, List.length_cons]
    omega
  have hothers : ∀ i ∈ List.range items.length,
      ((throughItem (item :: items) (i + 1)).length ≤ n + 1 ↔
        (throughItem items i).length ≤ n - (quote item).length - 2 + 1 ∧
          (quote item).length ≤ n) := by
    intro i hi
    have hne : items ≠ [] := by
      rintro rfl
      simp at hi
    have hlength := two_le_length_throughItem hne i
    rw [length_throughItem_succ item hne]
    omega
  unfold closedWithin
  rw [List.length_cons, List.range_succ_eq_map, List.countP_cons, List.countP_map]
  by_cases hclosed : (quote item).length ≤ n
  · rw [if_pos hclosed, if_pos (decide_eq_true (hfirst.mpr hclosed))]
    refine congrArg (· + 1) (List.countP_congr fun i hi => ?_)
    simpa [hclosed] using hothers i hi
  · have hopen : ¬ (throughItem (item :: items) 0).length ≤ n + 1 := mt hfirst.mp hclosed
    rw [if_neg hclosed, if_neg (by simpa using hopen), Nat.add_zero, List.countP_eq_zero]
    intro i hi
    simpa [hclosed] using hothers i hi

/-- A quoted text whose closing quote is cut off is dropped. -/
theorem quotedTextsFrom_take_escaped (current cs : List Char) (m : Nat) :
    quotedTextsFrom current true false ((cs.flatMap escapeChar).take m) = [] := by
  induction cs generalizing current m with
  | nil => simp [quotedTextsFrom]
  | cons c cs ih =>
      rw [List.flatMap_cons]
      rcases escapeChar_cases c with ⟨e, hescape, -⟩ | ⟨hself, hbackslash, hquote⟩
      · rw [hescape]
        -- the cut may fall between the backslash and the character behind it
        rcases m with _ | _ | m
        · rfl
        · rfl
        · simpa [quotedTextsFrom] using ih (unescape e :: current) m
      · rw [hself]
        cases m with
        | zero => rfl
        | succ m => simpa [quotedTextsFrom, hbackslash, hquote] using ih (c :: current) m

theorem quotedTexts_take_quote (item : List Char) {m : Nat} (h : m < (quote item).length) :
    quotedTexts ((quote item).take m) = [] := by
  rw [length_quote] at h
  cases m with
  | zero => rfl
  | succ m =>
      have hinside : (item.flatMap escapeChar ++ ['"']).take m = (item.flatMap escapeChar).take m :=
        List.take_append_of_le_length (by omega)
      unfold quote
      rw [List.cons_append, List.take_succ_cons, hinside]
      simpa [quotedTexts, quotedTextsFrom] using quotedTextsFrom_take_escaped [] item m

theorem quotedTexts_take_separator (cs : List Char) (m : Nat) :
    quotedTexts (([',', ' '] ++ cs).take m) = quotedTexts (cs.take (m - 2)) := by
  rcases m with _ | _ | m
  · rfl
  · simp [quotedTexts, quotedTextsFrom]
  · simp [quotedTexts, quotedTextsFrom]

/-- Behind a cut, the quoted texts are the items that are closed. -/
theorem quotedTexts_take_joinWith (items : List (List Char)) (m : Nat) :
    quotedTexts ((joinWith [',', ' '] (items.map quote)).take m) =
      items.take (closedWithin items (m + 1)) := by
  induction items generalizing m with
  | nil => simp [joinWith, List.intercalate, quotedTexts, quotedTextsFrom]
  | cons item items ih =>
      rw [closedWithin_cons, List.map_cons, joinWith_cons]
      by_cases hclosed : (quote item).length ≤ m
      · -- the first item is whole, and the cut falls behind it
        rw [if_pos hclosed, List.take_append, List.take_of_length_le hclosed, quotedTexts_quote,
          List.take_succ_cons, ← ih]
        refine congrArg (item :: ·) ?_
        split
        · next hempty =>
            rw [List.isEmpty_iff.mp hempty]
            simp [joinWith, List.intercalate]
        · exact quotedTexts_take_separator _ _
      · -- the cut falls into the first item
        rw [if_neg hclosed, List.take_zero, List.take_append_of_le_length (by omega)]
        exact quotedTexts_take_quote item (by omega)

/-- A cut inside a list leaves no bracket that closes it; a cut behind the list leaves its body. -/
theorem bracketBody_take (items : List (List Char)) (m : Nat) :
    bracketBody ((joinWith [',', ' '] (items.map quote) ++ [']']).take m) =
      (joinWith [',', ' '] (items.map quote)).take m := by
  have hwhole := splitAtClose_joinWith items []
  by_cases hm : m ≤ (joinWith [',', ' '] (items.map quote)).length
  · rw [List.take_append_of_le_length hm]
    unfold bracketBody
    cases hcut : splitAtClose 1 false false
        ((joinWith [',', ' '] (items.map quote)).take m) with
    | none => rfl
    | some found =>
        -- the bracket would be found in the whole list too, with more text behind it
        have hlonger := splitAtClose_append hcut
          ((joinWith [',', ' '] (items.map quote)).drop m ++ [']'])
        rw [← List.append_assoc, List.take_append_drop, hwhole, Option.some.injEq,
          Prod.mk.injEq] at hlonger
        simp at hlonger
  · have hlength : (joinWith [',', ' '] (items.map quote) ++ [']']).length ≤ m := by
      simp only [List.length_append, List.length_singleton]
      omega
    rw [List.take_of_length_le hlength, List.take_of_length_le (by omega)]
    exact bracketBody_joinWith items []

/-- The start of a written list is read as the items that are closed in it. -/
theorem readItems?_take (items : List (List Char)) {n : Nat} (h : 1 ≤ n) :
    readItems? ((writeItems items).take n) = some (items.take (closedWithin items n)) := by
  obtain ⟨m, rfl⟩ := Nat.exists_eq_add_of_le' h
  have hblanks : ∀ c ∈ ([] : List Char), Text.isBlank c = true := by simp
  have hread := readItems?_bracket hblanks
    ((joinWith [',', ' '] (items.map quote) ++ [']']).take m)
  rw [bracketBody_take, quotedTexts_take_joinWith] at hread
  exact hread

end Bracket

/-- **Lists in longer and in cut texts.** The lenient codec reads the items that it wrote from any
text in which blanks stand in front of the written list and anything behind it. From the start of
the written list it reads the items whose closing quotes stand in it. -/
theorem Codec.parseItems_around_and_cut (items : List String) :
    (∀ blanks rest : String, (∀ c ∈ blanks.toList, Text.isBlank c = true) →
      parseItems .lenient (blanks ++ dumpItems .lenient items ++ rest) = .ok (some items)) ∧
    ∀ n, 1 ≤ n →
      parseItems .lenient (String.ofList ((dumpItems .lenient items).toList.take n)) =
        .ok (some (items.take (Bracket.closedWithin (items.map String.toList) n))) := by
  refine ⟨fun blanks rest hblanks => ?_, fun n hn => ?_⟩
  · unfold parseItems dumpItems
    rw [String.toList_append, String.toList_append, String.toList_ofList,
      Bracket.readItems?_around hblanks, Option.map_some, Text.map_ofList_map_toList]
  · unfold parseItems dumpItems
    rw [String.toList_ofList, String.toList_ofList, Bracket.readItems?_take _ hn, Option.map_some,
      List.map_take, Text.map_ofList_map_toList]

theorem Codec.parseItems_around_and_cut_sample :
    (∀ c ∈ " \n".toList, Text.isBlank c = true) ∧ 1 ≤ 11 ∧
      Codec.parseItems .lenient
          (" \n" ++ Codec.dumpItems .lenient ["a\"]", "\\", ""] ++ "] \"b\"\t") =
        .ok (some ["a\"]", "\\", ""]) ∧
      Codec.parseItems .lenient
          (String.ofList ((Codec.dumpItems .lenient ["a\"]", "\\", ""]).toList.take 11)) =
        .ok (some ["a\"]"]) := by
  have hblanks : ∀ c ∈ " \n".toList, Text.isBlank c = true :=
    List.all_eq_true.mp (by decide)
  obtain ⟨haround, hcut⟩ := Codec.parseItems_around_and_cut ["a\"]", "\\", ""]
  exact ⟨hblanks, by decide, haround " \n" "] \"b\"\t" hblanks, hcut 11 (by decide)⟩

end MarkdownSections
