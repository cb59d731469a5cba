import MarkdownSections.Proofs.Json.Scalar
import MarkdownSections.Text.Utf8

/-!
# Bytes of a text

The bytes of a text are read as that text (`decode?_encode`). The bytes of one character are read
in one step whatever stands behind them (`decode?_bytesOf_append`): their number tells in which of
the four ranges the character lies, and every byte behind the first one carries six bits of it.
-/

set_option autoImplicit false

namespace MarkdownSections.Text.Utf8

/-- The bytes of a text. -/
def encode (cs : List Char) : List Nat :=
  cs.flatMap bytesOf

theorem continuation?_add {n : Nat} (h : n < 0x40) : continuation? (0x80 + n) = some n := by
  unfold continuation?
  rw [if_pos (by simp; omega)]
  exact congrArg some (Nat.add_sub_cancel_left 0x80 n)

theorem charOf?_toNat {least : Nat} {c : Char} (h : least ≤ c.toNat) :
    charOf? least c.toNat = some c := by
  unfold charOf?
  rw [if_pos (by simp [h, isValidChar_toNat c]), Char.ofNat_toNat]

theorem toNat_lt (c : Char) : c.toNat < 0x110000 := by
  have hvalid := isValidChar_toNat c
  unfold Nat.isValidChar at hvalid
  omega

/-- The bytes of one character are read as that character. -/
theorem decode?_bytesOf_append (c : Char) (rest : List Nat) :
    decode? (bytesOf c ++ rest) = (decode? rest).map (c :: ·) := by
  have hbound := toNat_lt c
  unfold bytesOf
  dsimp only
  by_cases hone : c.toNat < 0x80
  · rw [if_pos hone, List.singleton_append, decode?.eq_def]
    dsimp only
    rw [if_pos hone, Char.ofNat_toNat]
  rw [if_neg hone]
  by_cases htwo : c.toNat < 0x800
  · have hpoint : (0xC0 + c.toNat / 0x40 - 0xC0) * 0x40 + c.toNat % 0x40 = c.toNat := by omega
    rw [if_pos htwo, List.cons_append, List.singleton_append, decode?, if_neg (by omega),
      if_pos (by omega), if_neg (by omega), continuation?_add (Nat.mod_lt _ (by decide))]
    simp only [Option.bind_eq_bind, Option.bind_some, hpoint, charOf?_toNat (Nat.le_of_not_lt hone)]
    cases decode? rest <;> rfl
  rw [if_neg htwo]
  by_cases hthree : c.toNat < 0x10000
  · have hpoint : ((0xE0 + c.toNat / 0x1000 - 0xE0) * 0x40 + c.toNat / 0x40 % 0x40) * 0x40
        + c.toNat % 0x40 = c.toNat := by omega
    rw [if_pos hthree, List.cons_append, List.cons_append, List.singleton_append, decode?,
      if_neg (by omega), if_neg (by omega), if_pos (by omega)]
    dsimp only
    rw [continuation?_add (Nat.mod_lt _ (by decide)), continuation?_add (Nat.mod_lt _ (by decide))]
    simp only [Option.bind_eq_bind, Option.bind_some, hpoint, charOf?_toNat (Nat.le_of_not_lt htwo)]
    cases decode? rest <;> rfl
  · have hpoint : (((0xF0 + c.toNat / 0x40000 - 0xF0) * 0x40 + c.toNat / 0x1000 % 0x40) * 0x40
        + c.toNat / 0x40 % 0x40) * 0x40 + c.toNat % 0x40 = c.toNat := by omega
    rw [if_neg hthree, List.cons_append, List.cons_append, List.cons_append, List.singleton_append,
      decode?, if_neg (by omega), if_neg (by omega), if_neg (by omega), if_pos (by omega)]
    dsimp only
    rw [continuation?_add (Nat.mod_lt _ (by decide)), continuation?_add (Nat.mod_lt _ (by decide)),
      continuation?_add (Nat.mod_lt _ (by decide))]
    simp only [Option.bind_eq_bind, Option.bind_some, hpoint,
      charOf?_toNat (Nat.le_of_not_lt hthree)]
    cases decode? rest <;> rfl

/-- The bytes of a text are read as that text. -/
theorem decode?_encode (cs : List Char) : decode? (encode cs) = some cs := by
  induction cs with
  | nil => rfl
  | cons c cs ih =>
      change decode? (bytesOf c ++ encode cs) = some (c :: cs)
      rw [decode?_bytesOf_append, ih]
      rfl

end MarkdownSections.Text.Utf8
