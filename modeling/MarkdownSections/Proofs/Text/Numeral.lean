import Mathlib.Data.List.Induction
import MarkdownSections.Text.Numeral

/-!
# Numerals are read back

The numeral of a whole number is read as that number, as long as it is one that is written
(`readInt?_showInt`). Decimal digits of ASCII are digits with the value they have there, and
neither blanks, signs nor underscores.
-/

set_option autoImplicit false

namespace MarkdownSections.Text

/-! ## Digits -/

theorem toNat_of_isDigit {c : Char} (h : c.isDigit = true) : 48 ≤ c.toNat ∧ c.toNat ≤ 57 := by
  simp only [Char.isDigit, Bool.and_eq_true, decide_eq_true_eq, ge_iff_le,
    UInt32.le_iff_toNat_le] at h
  exact h

theorem digitValue?_of_isDigit {c : Char} (h : c.isDigit = true) :
    digitValue? c = some (c.toNat - 48) := by
  obtain ⟨hlow, hhigh⟩ := toNat_of_isDigit h
  have hfirst : digitZeros.find? (fun z => decide (z ≤ c.toNat) && decide (c.toNat < z + 10)) =
      some 48 := by
    unfold digitZeros
    rw [List.find?_cons_of_pos]
    simp only [Bool.and_eq_true, decide_eq_true_eq]
    omega
  unfold digitValue?
  rw [hfirst]
  rfl

theorem isNumeralBlank_of_isDigit {c : Char} (h : c.isDigit = true) : isNumeralBlank c = false := by
  obtain ⟨hlow, hhigh⟩ := toNat_of_isDigit h
  have hblank : isBlank c = false := by
    unfold isBlank
    simp only [Bool.or_eq_false_iff, Bool.and_eq_false_iff, decide_eq_false_iff_not,
      beq_eq_false_iff_ne]
    omega
  simp [isNumeralBlank, hblank]

theorem isDigit_of_mem_natDigits {n : Nat} {c : Char} (h : c ∈ natDigits n) : c.isDigit = true :=
  Nat.isDigit_of_mem_toDigits (Nat.succ_pos 9) (Nat.le_refl 10) h

theorem natDigits_ne_nil (n : Nat) : natDigits n ≠ [] :=
  List.ne_nil_of_length_pos Nat.length_toDigits_pos

/-- A numeral starts with a digit. -/
theorem exists_natDigits_eq_cons (n : Nat) :
    ∃ c cs, natDigits n = c :: cs ∧ c.isDigit = true := by
  obtain ⟨c, cs, hdigits⟩ := List.exists_cons_of_ne_nil (natDigits_ne_nil n)
  exact ⟨c, cs, hdigits, isDigit_of_mem_natDigits (n := n) (hdigits ▸ List.mem_cons_self)⟩

/-! ## Numbers -/

theorem numeralDigits?_of_isDigit {cs : List Char} (hne : cs ≠ [])
    (h : ∀ c ∈ cs, c.isDigit = true) :
    numeralDigits? cs = some (cs.map fun c => c.toNat - 48) := by
  induction cs with
  | nil => exact absurd rfl hne
  | cons c cs ih =>
      have hc := digitValue?_of_isDigit (h c List.mem_cons_self)
      cases cs with
      | nil => simp [numeralDigits?, hc]
      | cons c' cs =>
          have hrest := ih (List.cons_ne_nil c' cs) fun x hx => h x (List.mem_cons_of_mem c hx)
          have hunderscore : c' ≠ '_' := by
            rintro rfl
            exact absurd (h '_' (by simp)) (by decide)
          rw [numeralDigits?, hc, hrest]
          · rfl
          · exact List.cons_ne_nil c' cs
          · exact fun cs' heq => hunderscore (List.cons.inj heq).1

theorem ofDigits_eq_ofDigitChars (cs : List Char) :
    ofDigits (cs.map fun c => c.toNat - 48) = Nat.ofDigitChars 10 cs 0 := by
  unfold ofDigits
  rw [Nat.ofDigitChars_eq_foldl, List.foldl_map]
  rfl

theorem length_natDigits_le {n k : Nat} (hk : 0 < k) (h : n < tenPow k) :
    (natDigits n).length ≤ k :=
  (Nat.length_toDigits_le_iff (by decide) hk).mpr h

theorem tenPow_le_tenPow {m n : Nat} (h : m ≤ n) : tenPow m ≤ tenPow n :=
  Nat.pow_le_pow_right (Nat.succ_pos 9) h

/-- As many digits as there are write no larger number. -/
theorem ofDigits_lt_tenPow {ds : List Nat} (h : ∀ d ∈ ds, d < 10) :
    ofDigits ds < tenPow ds.length := by
  -- the last digit is the one that the others are shifted for
  induction ds using List.reverseRecOn with
  | nil => decide
  | append_singleton ds d ih =>
      have hd : d < 10 := h d (by simp)
      have hfront : ofDigits ds < tenPow ds.length := ih fun x hx => h x (by simp [hx])
      have hsplit : ofDigits (ds ++ [d]) = 10 * ofDigits ds + d := List.foldl_append ..
      have hpow : tenPow (ds ++ [d]).length = 10 * tenPow ds.length := by
        rw [List.length_append]
        exact Nat.pow_succ'
      omega

theorem digit_lt_ten {c : Char} (h : c.isDigit = true) : c.toNat - 48 < 10 := by
  obtain ⟨-, hhigh⟩ := toNat_of_isDigit h
  omega

/-- Digits write a number that is written with no more of them. -/
theorem ofDigits_lt_of_isDigit {cs : List Char} (h : ∀ c ∈ cs, c.isDigit = true) :
    ofDigits (cs.map fun c => c.toNat - 48) < tenPow cs.length := by
  have hvalues : ∀ d ∈ cs.map fun c => c.toNat - 48, d < 10 := by
    intro d hd
    obtain ⟨c, hc, rfl⟩ := List.mem_map.mp hd
    exact digit_lt_ten (h c hc)
  simpa using ofDigits_lt_tenPow hvalues

theorem isWritable_of_natAbs_lt {i : Int} {k : Nat} (h : i.natAbs < tenPow k)
    (hk : k ≤ maxDigits) : isWritable i = true :=
  decide_eq_true (Nat.lt_of_lt_of_le h (tenPow_le_tenPow hk))

/-- Digits of an admitted number write a number that is written again, with either sign. -/
theorem isWritable_ofDigits {cs : List Char} (hdigits : ∀ c ∈ cs, c.isDigit = true)
    (hlength : cs.length ≤ maxDigits) (negative : Bool) :
    isWritable (if negative then -(ofDigits (cs.map fun c => c.toNat - 48) : Int)
      else ofDigits (cs.map fun c => c.toNat - 48)) = true := by
  refine isWritable_of_natAbs_lt ?_ hlength
  have habs : (if negative then -(ofDigits (cs.map fun c => c.toNat - 48) : Int)
      else ofDigits (cs.map fun c => c.toNat - 48)).natAbs =
        ofDigits (cs.map fun c => c.toNat - 48) := by
    cases negative with
    | false => exact Int.natAbs_natCast _
    | true => exact (Int.natAbs_neg _).trans (Int.natAbs_natCast _)
  rw [habs]
  exact ofDigits_lt_of_isDigit hdigits

/-- A number other than zero is written without zeros in front. -/
theorem eq_nil_of_natDigits_eq_zero_cons {n : Nat} {ds : List Char}
    (h : natDigits n = '0' :: ds) : ds = [] := by
  by_contra hne
  have hdigits : ∀ c ∈ ds, c.isDigit = true := fun c hc =>
    isDigit_of_mem_natDigits (n := n) (h ▸ List.mem_cons_of_mem _ hc)
  have hvalue : n = ofDigits (ds.map fun c => c.toNat - 48) := by
    rw [ofDigits_eq_ofDigitChars]
    refine (Nat.ofDigitChars_ten_toDigits (n := n)).symm.trans ?_
    change Nat.ofDigitChars 10 (natDigits n) 0 = _
    rw [h, Nat.ofDigitChars_cons]
    rfl
  have hlength := length_natDigits_le (List.length_pos_iff.mpr hne)
    (hvalue ▸ ofDigits_lt_of_isDigit hdigits)
  rw [h, List.length_cons] at hlength
  omega

theorem readNat?_natDigits {n : Nat} (h : n < tenPow maxDigits) :
    readNat? (natDigits n) = some n := by
  have hlength : (natDigits n).length ≤ maxDigits := length_natDigits_le (by decide) h
  unfold readNat?
  rw [numeralDigits?_of_isDigit (natDigits_ne_nil n) fun c hc => isDigit_of_mem_natDigits hc]
  change (if ((natDigits n).map fun c => c.toNat - 48).length ≤ maxDigits then _ else _) = _
  rw [List.length_map, if_pos hlength, ofDigits_eq_ofDigitChars]
  exact congrArg some Nat.ofDigitChars_ten_toDigits

theorem trimNumeral_of_not_blank {cs : List Char} (h : ∀ c ∈ cs, isNumeralBlank c = false) :
    trimNumeral cs = cs := by
  have hstart : ∀ xs : List Char, (∀ c ∈ xs, isNumeralBlank c = false) →
      xs.dropWhile isNumeralBlank = xs := by
    intro xs hxs
    cases xs with
    | nil => rfl
    | cons x xs => exact List.dropWhile_cons_of_neg (by simp [hxs x List.mem_cons_self])
  unfold trimNumeral dropEndWhile
  rw [hstart cs h, hstart cs.reverse fun c hc => h c (List.mem_reverse.mp hc), List.reverse_reverse]

/-- A whole number is read back from its numeral. -/
theorem readInt?_showInt {i : Int} (h : isWritable i = true) :
    readInt? (showInt i).toList = some i := by
  have hdigit : ∀ n, ∀ c ∈ natDigits n, isNumeralBlank c = false := fun n c hc =>
    isNumeralBlank_of_isDigit (isDigit_of_mem_natDigits hc)
  unfold isWritable at h
  rw [decide_eq_true_eq] at h
  unfold readInt? showInt
  cases i with
  | ofNat n =>
      have hsign : ∀ sign ds, natDigits n = sign :: ds → sign.isDigit = true := fun sign ds hds =>
        isDigit_of_mem_natDigits (n := n) (hds ▸ List.mem_cons_self)
      have hread : readNat? (natDigits n) = some n := readNat?_natDigits h
      simp only [String.toList_ofList]
      rw [trimNumeral_of_not_blank (hdigit n)]
      -- digits start with no sign, so the numeral is read as it stands
      split
      · next ds hds => exact absurd (hsign '-' ds hds) (by decide)
      · next ds hds => exact absurd (hsign '+' ds hds) (by decide)
      · rw [hread]
        rfl
  | negSucc n =>
      -- the sign is no blank either
      have hminus : ∀ c ∈ '-' :: natDigits (n + 1), isNumeralBlank c = false := by
        intro c hc
        rcases List.mem_cons.mp hc with rfl | hc
        · decide
        · exact hdigit (n + 1) c hc
      simp only [String.toList_ofList]
      rw [trimNumeral_of_not_blank hminus]
      simp only [readNat?_natDigits (n := n + 1) h]
      rfl

/-! ## What is read is written -/

theorem digitValue?_lt_ten {c : Char} {d : Nat} (h : digitValue? c = some d) : d < 10 := by
  obtain ⟨first, hfirst, rfl⟩ := Option.map_eq_some_iff.mp h
  have hrange := List.find?_some hfirst
  simp only [Bool.and_eq_true, decide_eq_true_eq] at hrange
  omega

theorem lt_ten_of_mem_numeralDigits? {cs : List Char} {ds : List Nat}
    (h : numeralDigits? cs = some ds) : ∀ d ∈ ds, d < 10 := by
  fun_induction numeralDigits? cs generalizing ds with
  | case1 => cases h
  | case2 c =>
      obtain ⟨d, hd, rfl⟩ := Option.map_eq_some_iff.mp h
      simpa using digitValue?_lt_ten hd
  | case3 c cs ih | case4 c cs _ _ ih =>
      simp only [Option.bind_eq_bind, Option.pure_def, Option.bind_eq_some_iff, Option.some.injEq]
        at h
      obtain ⟨d, hd, ds', hds', rfl⟩ := h
      exact List.forall_mem_cons.mpr ⟨digitValue?_lt_ten hd, ih hds'⟩

theorem readNat?_lt {cs : List Char} {n : Nat} (h : readNat? cs = some n) :
    n < tenPow maxDigits := by
  simp only [readNat?, Option.bind_eq_bind, Option.bind_eq_some_iff, Option.ite_none_right_eq_some,
    Option.some.injEq] at h
  obtain ⟨ds, hds, hlength, rfl⟩ := h
  exact Nat.lt_of_lt_of_le (ofDigits_lt_tenPow (lt_ten_of_mem_numeralDigits? hds))
    (tenPow_le_tenPow hlength)

/-- A number that is read is one that is written. -/
theorem isWritable_of_readInt? {cs : List Char} {i : Int} (h : readInt? cs = some i) :
    isWritable i = true := by
  -- a sign does not change how many digits there are
  obtain ⟨ds, n, hn, habs⟩ : ∃ ds n, readNat? ds = some n ∧ i.natAbs = n := by
    unfold readInt? at h
    split at h
    all_goals
      simp only [Option.map_eq_some_iff, Option.bind_eq_bind, Option.bind_eq_some_iff,
        Option.pure_def, Option.some.injEq] at h
      obtain ⟨_, ⟨n, hn, rfl⟩, rfl⟩ := h
      exact ⟨_, n, hn, by simp⟩
  rw [isWritable, decide_eq_true_eq, habs]
  exact readNat?_lt hn

/-! ## Numerals tell their numbers -/

theorem natDigits_injective : Function.Injective natDigits := by
  intro m n h
  have hread := congrArg (fun ds => Nat.ofDigitChars 10 ds 0) h
  simpa only [natDigits, Nat.ofDigitChars_ten_toDigits] using hread

theorem isDigit_of_mem_showInt {i : Int} {c : Char} (h : c ∈ (showInt i).toList) :
    c.isDigit = true ∨ c = '-' := by
  cases i with
  | ofNat n => exact Or.inl (isDigit_of_mem_natDigits (n := n) (by simpa [showInt] using h))
  | negSucc n =>
      rw [showInt, String.toList_ofList, List.mem_cons] at h
      exact h.symm.imp_left isDigit_of_mem_natDigits

theorem showInt_injective : Function.Injective showInt := by
  -- the digits of a natural number do not start with a sign
  have hsign : ∀ m n : Nat, natDigits m ≠ '-' :: natDigits n := fun m n h =>
    absurd (isDigit_of_mem_natDigits (n := m) (h ▸ List.mem_cons_self)) (by decide)
  intro i j h
  cases i with
  | ofNat m =>
      cases j with
      | ofNat n => exact congrArg Int.ofNat (natDigits_injective (String.ofList_injective h))
      | negSucc n => exact absurd (String.ofList_injective h) (hsign m (n + 1))
  | negSucc m =>
      cases j with
      | ofNat n => exact absurd (String.ofList_injective h).symm (hsign n (m + 1))
      | negSucc n =>
          have hdigits := (List.cons.inj (String.ofList_injective h)).2
          exact congrArg Int.negSucc (Nat.succ.inj (natDigits_injective hdigits))

end MarkdownSections.Text
