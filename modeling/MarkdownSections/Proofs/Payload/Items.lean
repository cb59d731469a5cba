import MarkdownSections.Payload.Codec

/-!
# Bracketed lists are read back

What the lenient codec writes for a list of texts, it reads back as that list, whatever the texts
are and whatever stands behind the closing bracket (`readItems?_writeItems`). An escape of one or
two characters stands for one character of the text (`escapeChar_cases`), so both scans, the one for
the closing bracket and the one for the quoted texts, pass a quoted text in one step
(`splitAtClose_quote`, `quotedTexts_quote`).
-/

set_option autoImplicit false

namespace MarkdownSections

@[simp] theorem Text.map_ofList_map_toList (texts : List String) :
    (texts.map String.toList).map String.ofList = texts := by
  simp [Function.comp_def]

namespace Bracket

/-! ## One character -/

/-- A character inside quotes is an escape that stands for it, or itself and then no delimiter. -/
theorem escapeChar_cases (c : Char) :
    (∃ e, escapeChar c = ['\\', e] ∧ unescape e = c) ∨
      (escapeChar c = [c] ∧ c ≠ '\\' ∧ c ≠ '"') := by
  by_cases hbackslash : c = '\\'
  · subst hbackslash
    exact Or.inl ⟨'\\', rfl, rfl⟩
  by_cases hquote : c = '"'
  · subst hquote
    exact Or.inl ⟨'"', rfl, rfl⟩
  by_cases hfeed : c = '\n'
  · subst hfeed
    exact Or.inl ⟨'n', rfl, rfl⟩
  by_cases hreturn : c = '\r'
  · subst hreturn
    exact Or.inl ⟨'r', rfl, rfl⟩
  by_cases htab : c = '\t'
  · subst htab
    exact Or.inl ⟨'t', rfl, rfl⟩
  · refine Or.inr ⟨?_, hbackslash, hquote⟩
    simp [escapeChar, hbackslash, hquote, hfeed, hreturn, htab]

theorem quotedTextsFrom_escapeChar (current rest : List Char) (c : Char) :
    quotedTextsFrom current true false (escapeChar c ++ rest) =
      quotedTextsFrom (c :: current) true false rest := by
  rcases escapeChar_cases c with ⟨e, hescape, hchar⟩ | ⟨hself, hbackslash, hquote⟩
  · rw [hescape]
    simp [quotedTextsFrom, hchar]
  · rw [hself]
    simp [quotedTextsFrom, hbackslash, hquote]

/-- What a scan finds behind characters that it passes. -/
def passed (front : List Char) (found : Option (List Char × List Char)) :
    Option (List Char × List Char) :=
  found.map fun p => (front ++ p.1, p.2)

theorem passed_passed (front front' : List Char) (found : Option (List Char × List Char)) :
    passed front (passed front' found) = passed (front ++ front') found := by
  cases found with
  | none => rfl
  | some p => simp [passed, List.append_assoc]

theorem splitAtClose_escapeChar (depth : Nat) (rest : List Char) (c : Char) :
    splitAtClose depth true false (escapeChar c ++ rest) =
      passed (escapeChar c) (splitAtClose depth true false rest) := by
  rcases escapeChar_cases c with ⟨e, hescape, -⟩ | ⟨hself, hbackslash, hquote⟩
  · rw [hescape]
    cases hrest : splitAtClose depth true false rest <;>
      simp [splitAtClose, passed, hrest]
  · rw [hself]
    simp [splitAtClose, passed, hbackslash, hquote]

/-! ## One quoted text -/

theorem quotedTextsFrom_escaped (current cs rest : List Char) :
    quotedTextsFrom current true false (cs.flatMap escapeChar ++ '"' :: rest) =
      (current.reverse ++ cs) :: quotedTexts rest := by
  induction cs generalizing current with
  | nil => simp [quotedTextsFrom, quotedTexts]
  | cons c cs ih =>
      rw [List.flatMap_cons, List.append_assoc, quotedTextsFrom_escapeChar, ih]
      simp

/-- A quoted text is read back, and reading goes on behind it. -/
theorem quotedTexts_quote (cs rest : List Char) :
    quotedTexts (quote cs ++ rest) = cs :: quotedTexts rest := by
  have hinside := quotedTextsFrom_escaped [] cs rest
  rw [List.reverse_nil, List.nil_append] at hinside
  rw [← hinside]
  simp [quote, quotedTexts, quotedTextsFrom]

theorem splitAtClose_escaped (depth : Nat) (cs rest : List Char) :
    splitAtClose depth true false (cs.flatMap escapeChar ++ '"' :: rest) =
      passed (cs.flatMap escapeChar ++ ['"']) (splitAtClose depth false false rest) := by
  induction cs with
  | nil => simp [splitAtClose, passed]
  | cons c cs ih =>
      rw [List.flatMap_cons, List.append_assoc, splitAtClose_escapeChar, ih, passed_passed,
        List.append_assoc]

/-- The search for a closing bracket passes a quoted text. -/
theorem splitAtClose_quote (depth : Nat) (cs rest : List Char) :
    splitAtClose depth false false (quote cs ++ rest) =
      passed (quote cs) (splitAtClose depth false false rest) := by
  have hopen : splitAtClose depth false false (quote cs ++ rest) =
      passed ['"'] (splitAtClose depth true false (cs.flatMap escapeChar ++ '"' :: rest)) := by
    simp [quote, splitAtClose, passed]
  rw [hopen, splitAtClose_escaped, passed_passed]
  simp [quote]

/-! ## Lists -/

@[simp] theorem joinWith_singleton (separator text : List Char) :
    joinWith separator [text] = text := by
  simp [joinWith, List.intercalate]

theorem joinWith_cons_cons (separator text text' : List Char) (texts : List (List Char)) :
    joinWith separator (text :: text' :: texts) =
      text ++ separator ++ joinWith separator (text' :: texts) := by
  simp [joinWith, List.intercalate]

/-- Behind the first of the texts that are joined stands the separator, if others follow. -/
theorem joinWith_cons (separator text : List Char) (texts : List (List Char)) :
    joinWith separator (text :: texts) =
      text ++ ((if texts.isEmpty then [] else separator) ++ joinWith separator texts) := by
  cases texts with
  | nil => simp [joinWith, List.intercalate]
  | cons next texts => simp [joinWith_cons_cons]

theorem quotedTexts_joinWith (items : List (List Char)) :
    quotedTexts (joinWith [',', ' '] (items.map quote)) = items := by
  induction items with
  | nil => rfl
  | cons item items ih =>
      rw [List.map_cons, joinWith_cons, quotedTexts_quote]
      refine congrArg (item :: ·) (Eq.trans ?_ ih)
      -- outside quotes the separator is skipped
      split
      · rfl
      · simp [quotedTexts, quotedTextsFrom]

/-- Outside quotes and inside `depth` brackets, the search for a closing bracket goes on behind a
text. -/
def Passes (depth : Nat) (text : List Char) : Prop :=
  ∀ rest, splitAtClose depth false false (text ++ rest) =
    passed text (splitAtClose depth false false rest)

theorem passes_nil (depth : Nat) : Passes depth [] := by
  intro rest
  change splitAtClose depth false false rest = passed [] (splitAtClose depth false false rest)
  cases splitAtClose depth false false rest <;> rfl

theorem Passes.append {depth : Nat} {text text' : List Char} (h : Passes depth text)
    (h' : Passes depth text') : Passes depth (text ++ text') := by
  intro rest
  rw [List.append_assoc, h, h', passed_passed]

theorem passes_quote (depth : Nat) (cs : List Char) : Passes depth (quote cs) :=
  splitAtClose_quote depth cs

/-- The search passes texts that are joined if it passes each of them. -/
theorem passes_joinWith {depth : Nat} {texts : List (List Char)}
    (h : ∀ text ∈ texts, Passes depth text) : Passes depth (joinWith [',', ' '] texts) := by
  induction texts with
  | nil => exact passes_nil depth
  | cons text texts ih =>
      have htexts := ih fun next hnext => h next (List.mem_cons_of_mem text hnext)
      -- the separator has no bracket in it
      have hseparator : Passes depth (if texts.isEmpty then [] else [',', ' ']) := by
        split
        · exact passes_nil depth
        · intro rest
          cases hrest : splitAtClose depth false false rest <;>
            simp [splitAtClose, passed, hrest]
      rw [joinWith_cons]
      exact (h text List.mem_cons_self).append (hseparator.append htexts)

/-- The bracket behind a text that the search passes closes the list. -/
theorem Passes.splitAtClose_close {text : List Char} (h : Passes 1 text) (rest : List Char) :
    splitAtClose 1 false false (text ++ ']' :: rest) = some (text, rest) := by
  rw [h]
  simp [splitAtClose, passed]

/-- The bracket behind the quoted texts of a list closes it. -/
theorem splitAtClose_joinWith (items : List (List Char)) (rest : List Char) :
    splitAtClose 1 false false (joinWith [',', ' '] (items.map quote) ++ ']' :: rest) =
      some (joinWith [',', ' '] (items.map quote), rest) := by
  refine Passes.splitAtClose_close (passes_joinWith fun text htext => ?_) rest
  obtain ⟨item, -, rfl⟩ := List.mem_map.mp htext
  exact passes_quote 1 item

theorem bracketBody_joinWith (items : List (List Char)) (rest : List Char) :
    bracketBody (joinWith [',', ' '] (items.map quote) ++ ']' :: rest) =
      joinWith [',', ' '] (items.map quote) := by
  unfold bracketBody
  rw [splitAtClose_joinWith]

/-- A text between characters that are no blanks is not trimmed. -/
theorem trim_of_not_isBlank {first last : Char} (hfirst : Text.isBlank first = false)
    (hlast : Text.isBlank last = false) (cs : List Char) :
    Text.trim (first :: (cs ++ [last])) = first :: (cs ++ [last]) := by
  have hstart : Text.trimStart (first :: (cs ++ [last])) = first :: (cs ++ [last]) :=
    List.dropWhile_cons_of_neg (by simp [hfirst])
  unfold Text.trim Text.trimEnd Text.dropEndWhile
  rw [hstart, ← List.cons_append, List.reverse_append, List.reverse_singleton,
    List.singleton_append, List.dropWhile_cons_of_neg (by simp [hlast])]
  simp

/-- A written list is read back. -/
@[simp] theorem readItems?_writeItems (items : List (List Char)) :
    readItems? (writeItems items) = some items := by
  unfold readItems? writeItems
  rw [List.cons_append, trim_of_not_isBlank (by decide) (by decide)]
  exact congrArg some ((congrArg quotedTexts (bracketBody_joinWith items [])).trans
    (quotedTexts_joinWith items))

end Bracket

/-- The lenient codec reads back the items that it writes. -/
@[simp] theorem Codec.parseItems_dumpItems (items : List String) :
    Codec.parseItems .lenient (Codec.dumpItems .lenient items) = .ok (some items) := by
  unfold parseItems dumpItems
  rw [String.toList_ofList, Bracket.readItems?_writeItems, Option.map_some,
    Text.map_ofList_map_toList]

end MarkdownSections
