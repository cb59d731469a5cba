import MarkdownSections.Proofs.Json.Derivation
import MarkdownSections.Proofs.Text.Numeral

/-!
# Control characters in data files

A data file holds no control characters other than tabs, line feeds and carriage returns: outside
texts nothing but the grammar and its blanks is read, and inside texts control characters have to be
escaped. So a text with such a character in it is never read (`controlFree_of_read`).

Each construct is followed to the text behind it. Whatever bare control characters stood in front of
it still stand there afterwards (`Text.ControlsIn`).
-/

set_option autoImplicit false

namespace MarkdownSections

namespace Text

/-- A control character other than a tab, a line feed or a carriage return. -/
def isBareControl (c : Char) : Bool :=
  c.toNat < 0x20 && c != '\t' && c != '\n' && c != '\r'

/-- Every bare control character of a text stands in another one. -/
def ControlsIn (cs cs' : List Char) : Prop :=
  ∀ c ∈ cs, isBareControl c = true → c ∈ cs'

/-- A text without bare control characters. -/
def ControlFree (cs : List Char) : Prop :=
  ∀ c ∈ cs, isBareControl c = false

instance (cs : List Char) : Decidable (ControlFree cs) :=
  List.decidableBAll (fun c => isBareControl c = false) cs

@[simp] theorem controlFree_nil : ControlFree [] :=
  fun _ hc => absurd hc List.not_mem_nil

@[simp] theorem controlFree_cons (c : Char) (cs : List Char) :
    ControlFree (c :: cs) ↔ isBareControl c = false ∧ ControlFree cs :=
  List.forall_mem_cons

@[simp] theorem controlFree_append (cs cs' : List Char) :
    ControlFree (cs ++ cs') ↔ ControlFree cs ∧ ControlFree cs' :=
  List.forall_mem_append

theorem ControlFree.of_subset {cs cs' : List Char} (h : ControlFree cs') (hsub : cs ⊆ cs') :
    ControlFree cs :=
  fun c hc => h c (hsub hc)

namespace ControlsIn

/-- Where there are no bare control characters, none come from there. -/
theorem controlFree {cs cs' : List Char} (h : ControlsIn cs cs') (hfree : ControlFree cs') :
    ControlFree cs := by
  intro c hc
  cases hbare : isBareControl c with
  | false => rfl
  | true => exact hbare.symm.trans (hfree c (h c hc hbare))

theorem refl (cs : List Char) : ControlsIn cs cs :=
  fun _ hc _ => hc

theorem trans {cs middle cs' : List Char} (h : ControlsIn cs middle)
    (h' : ControlsIn middle cs') : ControlsIn cs cs' :=
  fun c hc hbare => h' c (h c hc hbare) hbare

theorem of_subset {cs cs' : List Char} (h : cs ⊆ cs') : ControlsIn cs cs' :=
  fun _ hc _ => h hc

theorem cons {c : Char} (hc : isBareControl c = false) {cs cs' : List Char}
    (h : ControlsIn cs cs') : ControlsIn (c :: cs) cs' := by
  intro x hx hbare
  rcases List.mem_cons.mp hx with rfl | hx
  · rw [hc] at hbare
    cases hbare
  · exact h x hx hbare

theorem append (front : List Char) (hfront : ControlFree front) (rest : List Char) :
    ControlsIn (front ++ rest) rest := by
  intro c hc hbare
  rcases List.mem_append.mp hc with hc | hc
  · rw [hfront c hc] at hbare
    cases hbare
  · exact hc

theorem dropWhile {p : Char → Bool} (hp : ∀ c, p c = true → isBareControl c = false)
    (cs : List Char) : ControlsIn cs (cs.dropWhile p) := by
  induction cs with
  | nil => exact refl []
  | cons c cs ih =>
      by_cases hc : p c = true
      · rw [List.dropWhile_cons_of_pos hc]
        exact ih.cons (hp c hc)
      · rw [List.dropWhile_cons_of_neg hc]
        exact refl (c :: cs)

end ControlsIn

end Text

namespace Json

open Attempt (exists_of_bind_eq_ok)

theorem isBareControl_of_le {c : Char} (h : 0x20 ≤ c.toNat) : Text.isBareControl c = false := by
  have hsmall : decide (c.toNat < 0x20) = false := by
    rw [decide_eq_false_iff_not]
    omega
  simp [Text.isBareControl, hsmall]

theorem isBareControl_of_isDigit {c : Char} (h : c.isDigit = true) :
    Text.isBareControl c = false := by
  obtain ⟨hlow, -⟩ := Text.toNat_of_isDigit h
  exact isBareControl_of_le (by omega)

theorem controlsIn_skipBlanks (cs : List Char) : Text.ControlsIn cs (skipBlanks cs) := by
  refine Text.ControlsIn.dropWhile (fun c hc => ?_) cs
  simp only [Bool.or_eq_true, beq_iff_eq] at hc
  rcases hc with ((rfl | rfl) | rfl) | rfl <;> decide

/-! ## Numbers and words -/

theorem controlsIn_spanDigits {cs ds rest : List Char} (h : spanDigits cs = (ds, rest)) :
    Text.ControlsIn cs rest := by
  cases h
  exact Text.ControlsIn.dropWhile (fun _ hc => isBareControl_of_isDigit hc) cs

theorem controlsIn_spanFraction {cs ds rest : List Char} (h : spanFraction cs = (ds, rest)) :
    Text.ControlsIn cs rest := by
  unfold spanFraction at h
  split at h
  · split at h
    · cases h
      exact Text.ControlsIn.refl _
    · exact (controlsIn_spanDigits h).cons (by decide)
  · cases h
    exact Text.ControlsIn.refl _

theorem controlsIn_spanExponent {cs rest : List Char} {exponent : Option Int}
    (h : spanExponent cs = (exponent, rest)) : Text.ControlsIn cs rest := by
  cases cs with
  | nil =>
      cases h
      exact Text.ControlsIn.refl []
  | cons c cs =>
      unfold spanExponent at h
      dsimp only at h
      split at h
      · next hmark =>
          have hletter : Text.isBareControl c = false := by
            simp only [Bool.or_eq_true, decide_eq_true_eq] at hmark
            rcases hmark with rfl | rfl <;> decide
          split at h
          · cases h
            exact Text.ControlsIn.refl (c :: cs)
          · next heq =>
              cases h
              refine (Text.ControlsIn.trans ?_ (controlsIn_spanDigits heq)).cons hletter
              -- the sign is no control character
              split
              · exact (Text.ControlsIn.refl _).cons (by decide)
              · exact (Text.ControlsIn.refl _).cons (by decide)
              · exact Text.ControlsIn.refl _
      · cases h
        exact Text.ControlsIn.refl (c :: cs)

theorem controlsIn_readNumeral {rules : ReadRules} {negative : Bool} {cs rest : List Char}
    {v : Json} (h : readNumeral rules negative cs = .ok (v, rest)) : Text.ControlsIn cs rest := by
  unfold readNumeral at h
  split at h
  next middle hwhole =>
    -- in front stands the whole part, then the fraction and the exponent
    have hfront : Text.ControlsIn cs middle := by
      split at hwhole
      · cases hwhole
        exact (Text.ControlsIn.refl _).cons (by decide)
      · exact controlsIn_spanDigits hwhole
    split at h
    · cases h
    · split at h
      next hfraction =>
        split at h
        next hexponent =>
          have hback : Text.ControlsIn middle _ :=
            (controlsIn_spanFraction hfraction).trans (controlsIn_spanExponent hexponent)
          dsimp only at h
          split at h
          · cases h
          · split at h
            · cases h
              exact hfront.trans hback
            · cases h
              exact hfront.trans hback

theorem controlsIn_readScalar {rules : ReadRules} {cs rest : List Char} {v : Json}
    (h : readScalar rules cs = .ok (v, rest)) : Text.ControlsIn cs rest := by
  unfold readScalar at h
  split at h
  · cases h
    exact Text.ControlsIn.append "null".toList (by decide) rest
  · cases h
    exact Text.ControlsIn.append "true".toList (by decide) rest
  · cases h
    exact Text.ControlsIn.append "false".toList (by decide) rest
  · cases h
    exact Text.ControlsIn.append "NaN".toList (by decide) rest
  · cases h
    exact Text.ControlsIn.append "Infinity".toList (by decide) rest
  · cases h
    exact Text.ControlsIn.append "-Infinity".toList (by decide) rest
  · exact (controlsIn_readNumeral h).cons (by decide)
  · exact controlsIn_readNumeral h

/-! ## Texts -/

theorem isBareControl_of_hexValue? {c : Char} {n : Nat} (h : Text.hexValue? c = some n) :
    Text.isBareControl c = false := by
  refine isBareControl_of_le (Nat.le_of_not_lt fun hsmall => ?_)
  have hnone : Text.hexValue? c = none := by
    unfold Text.hexValue?
    dsimp only
    rw [if_neg (by simp; omega), if_neg (by simp; omega), if_neg (by simp; omega)]
  rw [hnone] at h
  cases h

/-- Hexadecimal digits are no control characters. -/
theorem controlFree_of_hexNumber? {cs : List Char} {n : Nat} (h : Text.hexNumber? cs = some n) :
    Text.ControlFree cs := by
  have hfold : ∀ (cs : List Char) (acc : Nat),
      cs.foldlM (fun n c => (Text.hexValue? c).map (16 * n + ·)) acc = some n →
        Text.ControlFree cs := by
    intro cs
    induction cs with
    | nil => simp
    | cons c cs ih =>
        intro acc hfold
        cases hc : Text.hexValue? c with
        | none => simp [hc] at hfold
        | some k =>
            rw [Text.controlFree_cons]
            exact ⟨isBareControl_of_hexValue? hc, ih (16 * acc + k) (by simpa [hc] using hfold)⟩
  unfold Text.hexNumber? at h
  split at h
  · cases h
  · exact hfold cs 0 h

theorem isBareControl_of_shortEscape? {c e : Char} (h : shortEscape? e = some c) :
    Text.isBareControl e = false := by
  unfold shortEscape? at h
  split at h
  all_goals first | rfl | cases h

theorem controlsIn_readUnits {cs rest : List Char} {units : List Nat}
    (h : readUnits cs = .ok (units, rest)) : Text.ControlsIn cs rest := by
  fun_induction readUnits cs generalizing units rest with
  | case1 => cases h
  | case2 tail =>
      cases h
      exact (Text.ControlsIn.refl _).cons (by decide)
  | case3 => cases h
  | case4 a b c d tail n hn ih =>
      obtain ⟨⟨units', rest'⟩, hread, hpure⟩ := exists_of_bind_eq_ok h
      cases hpure
      have hdigits := Text.ControlsIn.append [a, b, c, d] (controlFree_of_hexNumber? hn) tail
      exact ((hdigits.trans (ih hread)).cons (by decide)).cons (by decide)
  | case5 => cases h
  | case6 e tail _ c hshort ih =>
      obtain ⟨⟨units', rest'⟩, hread, hpure⟩ := exists_of_bind_eq_ok h
      cases hpure
      exact ((ih hread).cons (isBareControl_of_shortEscape? hshort)).cons (by decide)
  | case7 => cases h
  | case8 c tail _ _ _ hkept ih =>
      -- the only place where a character is kept as it is, and there control characters are refused
      obtain ⟨⟨units', rest'⟩, hread, hpure⟩ := exists_of_bind_eq_ok h
      cases hpure
      have hplain : 0x20 ≤ c.toNat := by
        simp only [Bool.or_eq_true, decide_eq_true_eq, not_or] at hkept
        omega
      exact (ih hread).cons (isBareControl_of_le hplain)

theorem controlsIn_readText {rules : ReadRules} {cs rest : List Char} {points : List Nat}
    (h : readText rules cs = .ok (points, rest)) : Text.ControlsIn cs rest := by
  obtain ⟨⟨units, rest'⟩, hread, hrest⟩ := exists_of_bind_eq_ok h
  dsimp only at hrest
  split at hrest
  · cases hrest
    exact controlsIn_readUnits hread
  · cases hrest

/-! ## Values -/

/-- Behind blanks and a delimiter, the control characters are still there. -/
theorem controlsIn_of_skipBlanks {cs tail : List Char} {c : Char} (h : skipBlanks cs = c :: tail)
    (hc : Text.isBareControl c = false) : Text.ControlsIn cs tail := by
  have hblanks := controlsIn_skipBlanks cs
  rw [h] at hblanks
  exact hblanks.trans ((Text.ControlsIn.refl tail).cons hc)

section Derivations

variable {rules : ReadRules}

mutual

theorem ValueAt.controlsIn {room : Nat} {cs rest : List Char} {v : Json} :
    ValueAt rules room cs v rest → Text.ControlsIn cs rest
  | .text hread => (controlsIn_readText hread).cons (by decide)
  | .emptyList hclose => (controlsIn_of_skipBlanks hclose (by decide)).cons (by decide)
  | .list hitems => ((controlsIn_skipBlanks _).trans hitems.controlsIn).cons (by decide)
  | .emptyMap hclose => (controlsIn_of_skipBlanks hclose (by decide)).cons (by decide)
  | .map hentries => ((controlsIn_skipBlanks _).trans hentries.controlsIn).cons (by decide)
  | .scalar hread => controlsIn_readScalar hread

theorem ItemsAt.controlsIn {room : Nat} {cs rest : List Char} {vs : List Json} :
    ItemsAt rules room cs vs rest → Text.ControlsIn cs rest
  | .last hvalue hclose => hvalue.controlsIn.trans (controlsIn_of_skipBlanks hclose (by decide))
  | .more hvalue hcomma hitems =>
    (hvalue.controlsIn.trans (controlsIn_of_skipBlanks hcomma (by decide))).trans
      ((controlsIn_skipBlanks _).trans hitems.controlsIn)

theorem EntryAt.controlsIn {room : Nat} {cs rest : List Char} {key : List Nat} {v : Json} :
    EntryAt rules room cs key v rest → Text.ControlsIn cs rest
  | .pair hkey hcolon hvalue =>
    (((controlsIn_readText hkey).trans (controlsIn_of_skipBlanks hcolon (by decide))).trans
      ((controlsIn_skipBlanks _).trans hvalue.controlsIn)).cons (by decide)

theorem EntriesAt.controlsIn {room : Nat} {cs rest : List Char} {done es : List (List Nat × Json)} :
    EntriesAt rules room done cs es rest → Text.ControlsIn cs rest
  | .last hentry hclose => hentry.controlsIn.trans (controlsIn_of_skipBlanks hclose (by decide))
  | .more hentry hcomma hentries =>
    (hentry.controlsIn.trans (controlsIn_of_skipBlanks hcomma (by decide))).trans
      ((controlsIn_skipBlanks _).trans hentries.controlsIn)

end

end Derivations

/-- A text that is read is free of bare control characters. -/
theorem controlFree_of_read {rules : ReadRules} {cs : List Char} {v : Json}
    (h : read rules cs = .ok v) : Text.ControlFree cs := by
  obtain ⟨rest, hvalue, hend⟩ := exists_valueAt_of_read h
  have hall := ((controlsIn_skipBlanks cs).trans hvalue.controlsIn).trans
    (controlsIn_skipBlanks rest)
  rw [hend] at hall
  exact hall.controlFree Text.controlFree_nil

end Json

end MarkdownSections
