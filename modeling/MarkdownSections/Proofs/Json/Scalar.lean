import MarkdownSections.Json.Reader
import MarkdownSections.Json.Writer
import MarkdownSections.Proofs.Text.Numeral

/-!
# Written scalars are read back

Every written scalar is read with any text behind it: an escape of one character is one step of the
reader (`readUnits_escapeChar`), and the digits of a number are read as the number where no part of
a numeral stands behind them (`readNumeral_natDigits`).

A text is read as code points, and pairs of surrogate halves are joined. Characters are no halves,
so the code points of a text stay as they are (`Text.joinPairs_pointsOfChars`).
-/

set_option autoImplicit false

namespace MarkdownSections

/-! ## Code points of characters -/

namespace Text

/-- A character is no half of a surrogate pair. -/
theorem isValidChar_toNat (c : Char) : c.toNat.isValidChar :=
  c.valid

theorem joinPairs_pointsOfChars (cs : List Char) :
    joinPairs (pointsOfChars cs) = pointsOfChars cs := by
  induction cs with
  | nil => rfl
  | cons c cs ih =>
      cases cs with
      | nil => rfl
      | cons low cs =>
          -- the first of two code points is no upper half, so they are not joined
          have hvalid := isValidChar_toNat c
          have hhalf : ¬(0xD800 ≤ c.toNat ∧ c.toNat < 0xDC00) := by
            unfold Nat.isValidChar at hvalid
            omega
          have hpair : (decide (0xD800 ≤ c.toNat) && decide (c.toNat < 0xDC00) &&
              decide (0xDC00 ≤ low.toNat) && decide (low.toNat < 0xE000)) = false := by
            simp only [Bool.and_eq_false_iff, decide_eq_false_iff_not]
            omega
          change joinPairs (c.toNat :: low.toNat :: pointsOfChars cs) = _
          rw [joinPairs, hpair, if_neg Bool.false_ne_true]
          exact congrArg (c.toNat :: ·) ih

theorem areChars_pointsOfChars (cs : List Char) : areChars (pointsOfChars cs) = true := by
  simp only [areChars, pointsOfChars, List.all_map, List.all_eq_true, Function.comp_apply,
    decide_eq_true_eq]
  exact fun c _ => isValidChar_toNat c

theorem charsOfPoints_pointsOfChars (cs : List Char) : charsOfPoints (pointsOfChars cs) = cs := by
  unfold charsOfPoints pointsOfChars
  rw [List.map_map]
  refine (List.map_congr_left fun c _ => ?_).trans (List.map_id cs)
  rw [Function.comp_apply, if_pos (isValidChar_toNat c), Char.ofNat_toNat]
  rfl

end Text

namespace Json

theorem ofPoints_pointsOfChars (cs : List Char) :
    ofPoints (Text.pointsOfChars cs) = .text (String.ofList cs) := by
  unfold ofPoints
  rw [if_pos (Text.areChars_pointsOfChars cs), Text.charsOfPoints_pointsOfChars]

/-! ## Texts -/

/-- The four digits of a control character are read back. -/
theorem hexDigits_control {n : Nat} (h : n < 0x20) :
    ∃ a b c d, Text.hexDigits 4 n = [a, b, c, d] ∧ Text.hexNumber? [a, b, c, d] = some n := by
  have hall : ∀ m < 0x20, (Text.hexDigits 4 m).length = 4 ∧
      Text.hexNumber? (Text.hexDigits 4 m) = some m := by
    decide
  obtain ⟨hlength, hnumber⟩ := hall n h
  match hdigits : Text.hexDigits 4 n, hlength with
  | [a, b, c, d], _ => exact ⟨a, b, c, d, rfl, hdigits ▸ hnumber⟩

/-- A character inside quotes is a short escape that stands for it, the escape of a control
character, or itself. -/
theorem escapeChar_cases (c : Char) :
    (∃ e, escapeChar c = ['\\', e] ∧ shortEscape? e = some c) ∨
      (escapeChar c = '\\' :: 'u' :: Text.hexDigits 4 c.toNat ∧ c.toNat < 0x20) ∨
        (escapeChar c = [c] ∧ c ≠ '"' ∧ c ≠ '\\' ∧ 0x20 ≤ c.toNat) := by
  unfold escapeChar
  split
  · exact Or.inl ⟨'"', rfl, rfl⟩
  · exact Or.inl ⟨'\\', rfl, rfl⟩
  · exact Or.inl ⟨'n', rfl, rfl⟩
  · exact Or.inl ⟨'r', rfl, rfl⟩
  · exact Or.inl ⟨'t', rfl, rfl⟩
  · exact Or.inl ⟨'b', rfl, rfl⟩
  · exact Or.inl ⟨'f', rfl, rfl⟩
  · next hquote hbackslash _ _ _ _ _ =>
      right
      split
      · next hcontrol => exact Or.inl ⟨rfl, hcontrol⟩
      · next hplain => exact Or.inr ⟨rfl, hquote, hbackslash, by omega⟩

/-- One written character is read back. -/
theorem readUnits_escapeChar (c : Char) (rest : List Char) :
    readUnits (escapeChar c ++ rest) =
      (readUnits rest).map fun p => (c.toNat :: p.1, p.2) := by
  rcases escapeChar_cases c with ⟨e, hescape, hshort⟩ | ⟨hescape, hcontrol⟩ |
    ⟨hself, hquote, hbackslash, hplain⟩
  · -- `u` is the one letter that takes digits, and it is no short escape
    have hne : e ≠ 'u' := by
      rintro rfl
      cases hshort
    rw [hescape, List.cons_append, List.singleton_append,
      readUnits.eq_4 e rest fun _ _ _ _ _ he _ => hne he, hshort]
    cases readUnits rest <;> rfl
  · obtain ⟨a, b, c', d, hdigits, hnumber⟩ := hexDigits_control hcontrol
    rw [hescape, hdigits]
    simp only [List.cons_append, List.nil_append]
    rw [readUnits, hnumber]
    cases readUnits rest <;> rfl
  · have hkept : (decide (c.toNat < 0x20) || decide (c = '\\')) = false := by
      simp only [Bool.or_eq_false_iff, decide_eq_false_iff_not]
      exact ⟨by omega, hbackslash⟩
    rw [hself, List.singleton_append,
      readUnits.eq_5 c rest hquote (fun _ _ _ _ _ heq _ => hbackslash heq)
        (fun _ _ heq _ => hbackslash heq), hkept, if_neg Bool.false_ne_true]
    cases readUnits rest <;> rfl

theorem readUnits_escaped (cs rest : List Char) :
    readUnits (cs.flatMap escapeChar ++ '"' :: rest) = .ok (Text.pointsOfChars cs, rest) := by
  induction cs with
  | nil => rfl
  | cons c cs ih =>
      rw [List.flatMap_cons, List.append_assoc, readUnits_escapeChar, ih]
      rfl

/-- A written text is read back as its code points. -/
theorem readText_escaped (rules : ReadRules) (cs rest : List Char) :
    readText rules (cs.flatMap escapeChar ++ '"' :: rest) = .ok (Text.pointsOfChars cs, rest) := by
  have hchars : (rules.loneHalves || Text.areChars (Text.pointsOfChars cs)) = true := by
    rw [Text.areChars_pointsOfChars, Bool.or_true]
  unfold readText
  rw [readUnits_escaped]
  change (if (rules.loneHalves || Text.areChars (Text.joinPairs (Text.pointsOfChars cs))) = true
    then Except.ok (Text.joinPairs (Text.pointsOfChars cs), rest) else _) = _
  rw [Text.joinPairs_pointsOfChars, if_pos hchars]

theorem readValue_quote (rules : ReadRules) (fuel room : Nat) (cs rest : List Char) :
    readValue rules (fuel + 1) room (quote cs ++ rest) = .ok (.text (String.ofList cs), rest) := by
  have htext : quote cs ++ rest = '"' :: (cs.flatMap escapeChar ++ '"' :: rest) := by
    simp [quote]
  rw [htext, readValue.eq_2, readText_escaped]
  change Except.ok (ofPoints (Text.pointsOfChars cs), rest) = _
  rw [ofPoints_pointsOfChars]

/-! ## Blanks -/

/-- The blanks of the format. -/
def blanks : List Char :=
  [' ', '\t', '\n', '\r']

theorem skipBlanks_cons {c : Char} (h : c ∉ blanks) (cs : List Char) :
    skipBlanks (c :: cs) = c :: cs := by
  refine List.dropWhile_cons_of_neg ?_
  simpa [blanks, and_assoc] using h

theorem skipBlanks_append {front : List Char} (h : front ⊆ blanks) (cs : List Char) :
    skipBlanks (front ++ cs) = skipBlanks cs := by
  refine List.dropWhile_append_of_pos fun c hc => ?_
  have hblank := h hc
  simpa [blanks, or_assoc] using hblank

theorem skipBlanks_quote (cs rest : List Char) : skipBlanks (quote cs ++ rest) = quote cs ++ rest :=
  skipBlanks_cons (by decide) _

/-! ## Words and numbers -/

/-- A text in front of which a numeral ends. -/
def EndsNumeral (rest : List Char) : Prop :=
  ∀ c ∈ rest.head?, c.isDigit = false ∧ c ∉ ['.', 'e', 'E']

theorem endsNumeral_nil : EndsNumeral [] :=
  fun _ hc => absurd hc (Option.not_mem_none _)

theorem endsNumeral_cons {c : Char} (hdigit : c.isDigit = false) (hmark : c ∉ ['.', 'e', 'E'])
    (cs : List Char) : EndsNumeral (c :: cs) := by
  intro c' hc'
  cases hc'
  exact ⟨hdigit, hmark⟩

theorem spanDigits_append {ds rest : List Char} (hdigits : ∀ c ∈ ds, c.isDigit = true)
    (hrest : EndsNumeral rest) : spanDigits (ds ++ rest) = (ds, rest) := by
  have hfront : rest.takeWhile Char.isDigit = [] ∧ rest.dropWhile Char.isDigit = rest := by
    cases rest with
    | nil => exact ⟨rfl, rfl⟩
    | cons c cs =>
        have hc : ¬c.isDigit = true := Bool.not_eq_true _ ▸ (hrest c rfl).1
        exact ⟨List.takeWhile_cons_of_neg hc, List.dropWhile_cons_of_neg hc⟩
  unfold spanDigits
  rw [List.takeWhile_append_of_pos hdigits, List.dropWhile_append_of_pos hdigits, hfront.1,
    hfront.2, List.append_nil]

theorem spanFraction_of_endsNumeral {rest : List Char} (h : EndsNumeral rest) :
    spanFraction rest = ([], rest) := by
  unfold spanFraction
  split
  · exact absurd (by simp) (h '.' rfl).2
  · rfl

theorem spanExponent_of_endsNumeral {rest : List Char} (h : EndsNumeral rest) :
    spanExponent rest = (none, rest) := by
  cases rest with
  | nil => rfl
  | cons c cs =>
      have hmark : ¬(c = 'e' || c = 'E') = true := by
        have := (h c rfl).2
        simp only [List.mem_cons, List.not_mem_nil, not_or] at this
        simp [this]
      unfold spanExponent
      exact if_neg hmark

theorem digitsValue_natDigits (n : Nat) : digitsValue (Text.natDigits n) = n := by
  have hfold : digitsValue (Text.natDigits n) = Nat.ofDigitChars 10 (Text.natDigits n) 0 := by
    rw [Nat.ofDigitChars_eq_foldl]
    rfl
  rw [hfold]
  exact Nat.ofDigitChars_ten_toDigits

/-- The digits of a number are read as the number, with the sign that stood in front. -/
theorem readNumeral_natDigits (rules : ReadRules) (negative : Bool) {n : Nat}
    (hn : n < tenPow Text.maxDigits) {rest : List Char} (hrest : EndsNumeral rest) :
    readNumeral rules negative (Text.natDigits n ++ rest) =
      .ok (.int (if negative then -(n : Int) else n), rest) := by
  have hlength : (Text.natDigits n).length ≤ Text.maxDigits :=
    Text.length_natDigits_le (by decide) hn
  have hempty : (Text.natDigits n).isEmpty = false := by
    rw [List.isEmpty_eq_false_iff]
    exact Text.natDigits_ne_nil n
  unfold readNumeral
  split
  next whole behind hsplit =>
    have hwhole : (whole, behind) = (Text.natDigits n, rest) := by
      rw [← hsplit]
      split
      · next tail heq =>
          -- a zero in front is the whole numeral
          obtain ⟨ds, hds⟩ : ∃ ds, Text.natDigits n = '0' :: ds := by
            obtain ⟨c, ds, hdigits, -⟩ := Text.exists_natDigits_eq_cons n
            rw [hdigits] at heq
            cases heq
            exact ⟨ds, hdigits⟩
          rw [hds, Text.eq_nil_of_natDigits_eq_zero_cons hds] at heq ⊢
          cases heq
          rfl
      · exact spanDigits_append (fun c hc => Text.isDigit_of_mem_natDigits hc) hrest
    cases hwhole
    simp only [hempty, spanFraction_of_endsNumeral hrest, spanExponent_of_endsNumeral hrest,
      digitsValue_natDigits, decide_eq_false (Nat.not_lt.mpr hlength)]
    rfl

theorem not_mem_of_isDigit {c : Char} {cs : List Char} (h : c.isDigit = true)
    (hcs : cs.any Char.isDigit = false) : c ∉ cs := by
  intro hc
  rw [List.any_eq_false] at hcs
  exact hcs c hc h

theorem readScalar_of_isDigit {rules : ReadRules} {c : Char} (h : c.isDigit = true)
    (cs : List Char) : readScalar rules (c :: cs) = readNumeral rules false (c :: cs) := by
  unfold readScalar
  split
  all_goals first
    | rfl
    | next heq =>
        cases heq
        exact absurd h (by decide)

theorem readScalar_minus_natDigits (rules : ReadRules) (n : Nat) (rest : List Char) :
    readScalar rules ('-' :: (Text.natDigits n ++ rest)) =
      readNumeral rules true (Text.natDigits n ++ rest) := by
  obtain ⟨c, cs, hdigits, hc⟩ := Text.exists_natDigits_eq_cons n
  rw [hdigits]
  refine readScalar.eq_7 rules _ fun tail heq => ?_
  cases (List.cons.inj heq).1
  exact absurd hc (by decide)

end Json

end MarkdownSections
