import MarkdownSections.Json.Reader
import MarkdownSections.Proofs.Attempt

/-!
# What the reader of data files accepts

The constructs that may stand in front of a text are given here by rules, with what each of them
says and the text behind it (`ValueAt`, `ItemsAt`, `EntryAt`, `EntriesAt`). The rules have no fuel
and no failures, and what holds of all of them is proved by induction on derivations.

Main statement: whatever the reader gives, with any fuel, has a derivation (`followsRules`).
-/

set_option autoImplicit false

namespace MarkdownSections.Json

open Attempt (exists_of_bind_eq_ok)

/-! ## Rules -/

section Rules

variable (rules : ReadRules)

mutual

/-- A value, where `room` more collections may stand inside. -/
inductive ValueAt : Nat → List Char → Json → List Char → Prop where
  | text {room : Nat} {cs rest : List Char} {points : List Nat}
    (read : readText rules cs = .ok (points, rest)) : ValueAt room ('"' :: cs) (ofPoints points) rest
  | emptyList {room : Nat} {cs rest : List Char} (close : skipBlanks cs = ']' :: rest) :
    ValueAt room ('[' :: cs) (.list []) rest
  | list {room : Nat} {cs rest : List Char} {vs : List Json}
    (items : ItemsAt room (skipBlanks cs) vs rest) : ValueAt (room + 1) ('[' :: cs) (.list vs) rest
  | emptyMap {room : Nat} {cs rest : List Char} (close : skipBlanks cs = '\x7d' :: rest) :
    ValueAt room ('{' :: cs) (.map []) rest
  | map {room : Nat} {cs rest : List Char} {es : List (List Nat × Json)}
    (entries : EntriesAt room [] (skipBlanks cs) es rest) :
    ValueAt (room + 1) ('{' :: cs) (ofPointEntries es) rest
  | scalar {room : Nat} {cs rest : List Char} {v : Json}
    (read : readScalar rules cs = .ok (v, rest)) : ValueAt room cs v rest

/-- The items of a list with its closing bracket. -/
inductive ItemsAt : Nat → List Char → List Json → List Char → Prop where
  | last {room : Nat} {cs behind rest : List Char} {v : Json} (value : ValueAt room cs v behind)
    (close : skipBlanks behind = ']' :: rest) : ItemsAt room cs [v] rest
  | more {room : Nat} {cs behind tail rest : List Char} {v : Json} {vs : List Json}
    (value : ValueAt room cs v behind) (comma : skipBlanks behind = ',' :: tail)
    (items : ItemsAt room (skipBlanks tail) vs rest) : ItemsAt room cs (v :: vs) rest

/-- A key and its value. -/
inductive EntryAt : Nat → List Char → List Nat → Json → List Char → Prop where
  | pair {room : Nat} {cs behind tail rest : List Char} {key : List Nat} {v : Json}
    (read : readText rules cs = .ok (key, behind)) (colon : skipBlanks behind = ':' :: tail)
    (value : ValueAt room (skipBlanks tail) v rest) : EntryAt room ('"' :: cs) key v rest

/-- The entries of a map with its closing brace, put in behind those in front of them. -/
inductive EntriesAt : Nat → List (List Nat × Json) → List Char → List (List Nat × Json) →
    List Char → Prop where
  | last {room : Nat} {done : List (List Nat × Json)} {cs behind rest : List Char}
    {key : List Nat} {v : Json} (entry : EntryAt room cs key v behind)
    (close : skipBlanks behind = '\x7d' :: rest) :
    EntriesAt room done cs (insertEntry done key v) rest
  | more {room : Nat} {done es : List (List Nat × Json)} {cs behind tail rest : List Char}
    {key : List Nat} {v : Json} (entry : EntryAt room cs key v behind)
    (comma : skipBlanks behind = ',' :: tail)
    (entries : EntriesAt room (insertEntry done key v) (skipBlanks tail) es rest) :
    EntriesAt room done cs es rest

end

end Rules

/-! ## What is read follows the rules -/

/-- With some fuel, values, items and entries are read as the rules say. -/
structure FollowsRules (rules : ReadRules) (fuel : Nat) : Prop where
  value : ∀ {room cs v rest}, readValue rules fuel room cs = .ok (v, rest) →
    ValueAt rules room cs v rest
  items : ∀ {room cs vs rest}, readItems rules fuel room cs = .ok (vs, rest) →
    ItemsAt rules room cs vs rest
  entries : ∀ {room done cs es rest}, readEntries rules fuel room done cs = .ok (es, rest) →
    EntriesAt rules room done cs es rest

section Steps

variable {rules : ReadRules} {fuel : Nat} (hfuel : FollowsRules rules fuel) {room : Nat}
  {cs rest : List Char}

include hfuel

theorem FollowsRules.value_succ {v : Json}
    (h : readValue rules (fuel + 1) room cs = .ok (v, rest)) : ValueAt rules room cs v rest := by
  unfold readValue at h
  -- One rule for each way a value starts, with the readers of the parts at one fuel less.
  split at h
  · next tail =>
      obtain ⟨⟨points, rest'⟩, hread, hpure⟩ := exists_of_bind_eq_ok h
      cases hpure
      exact .text hread
  · next tail =>
      split at h
      · next hskip =>
          cases h
          exact .emptyList hskip
      · cases h
      · obtain ⟨⟨vs, rest'⟩, hread, hpure⟩ := exists_of_bind_eq_ok h
        cases hpure
        exact .list (hfuel.items hread)
  · next tail =>
      split at h
      · next hskip =>
          cases h
          exact .emptyMap hskip
      · cases h
      · obtain ⟨⟨es, rest'⟩, hread, hpure⟩ := exists_of_bind_eq_ok h
        cases hpure
        exact .map (hfuel.entries hread)
  · exact .scalar h

theorem FollowsRules.items_succ {vs : List Json}
    (h : readItems rules (fuel + 1) room cs = .ok (vs, rest)) : ItemsAt rules room cs vs rest := by
  rw [readItems] at h
  obtain ⟨⟨v, behind⟩, hread, hmore⟩ := exists_of_bind_eq_ok h
  dsimp only at hmore
  split at hmore
  · next tail hskip =>
      obtain ⟨⟨vs, rest'⟩, hread', hpure⟩ := exists_of_bind_eq_ok hmore
      cases hpure
      exact .more (hfuel.value hread) hskip (hfuel.items hread')
  · next hskip =>
      cases hmore
      exact .last (hfuel.value hread) hskip
  · cases hmore

theorem FollowsRules.entries_succ {done es : List (List Nat × Json)}
    (h : readEntries rules (fuel + 1) room done cs = .ok (es, rest)) :
    EntriesAt rules room done cs es rest := by
  unfold readEntries at h
  split at h
  · obtain ⟨⟨key, behind⟩, hkey, hmore⟩ := exists_of_bind_eq_ok h
    dsimp only at hmore
    split at hmore
    · next hcolon =>
        obtain ⟨⟨v, behind'⟩, hread, hmore⟩ := exists_of_bind_eq_ok hmore
        have hentry := EntryAt.pair hkey hcolon (hfuel.value hread)
        dsimp only at hmore
        -- Every rule starts with an entry; what follows it tells which one was used.
        split at hmore
        · next hcomma => exact .more hentry hcomma (hfuel.entries hmore)
        · next hclose =>
            cases hmore
            exact .last hentry hclose
        · cases hmore
    · cases hmore
  · cases h

end Steps

/-- The three readers call each other with less fuel, so the statements about them are proved
together. -/
theorem followsRules (rules : ReadRules) (fuel : Nat) : FollowsRules rules fuel := by
  induction fuel with
  | zero =>
      -- without fuel nothing is read
      refine ⟨fun h => ?_, fun h => ?_, fun h => ?_⟩
      · unfold readValue at h
        cases h
      · unfold readItems at h
        cases h
      · unfold readEntries at h
        cases h
  | succ fuel ih => exact ⟨ih.value_succ, ih.items_succ, ih.entries_succ⟩

/-- A text that is read is a value between blanks. -/
theorem exists_valueAt_of_read {rules : ReadRules} {cs : List Char} {v : Json}
    (h : read rules cs = .ok v) :
    ∃ rest, ValueAt rules rules.maxNesting (skipBlanks cs) v rest ∧ skipBlanks rest = [] := by
  obtain ⟨⟨v', rest⟩, hread, hend⟩ := exists_of_bind_eq_ok h
  dsimp only at hend
  split at hend
  · next hempty =>
      cases hend
      exact ⟨rest, (followsRules rules _).value hread, List.isEmpty_iff.mp hempty⟩
  · cases hend

end MarkdownSections.Json
