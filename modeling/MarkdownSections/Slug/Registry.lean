import MarkdownSections.Slug.Basic
import MarkdownSections.Text.Numeral

/-!
# Slug registries

A registry hands out ids that are unique in one document: the slug itself, or the slug with a
number behind it. It remembers every id that is taken, and for each slug the number to try next,
so that a slug that was handed out before does not start its search anew.
-/

set_option autoImplicit false

namespace MarkdownSections

/-- The ids taken so far, the latest first, and the next number to try for a slug. -/
structure SlugRegistry where
  next : List (String × Nat) := []
  taken : List String := []
deriving Repr, DecidableEq

namespace SlugRegistry

/-- The registry of a new document. -/
def empty : SlugRegistry := {}

/-- Whether an id is taken. -/
def contains (r : SlugRegistry) (id : String) : Bool :=
  r.taken.contains id

/-- The number to try next for a slug; zero stands for the bare slug. -/
def nextNumber (r : SlugRegistry) (slug : String) : Nat :=
  (r.next.lookup slug).getD 0

/-- The id that a slug and a number make. -/
def numbered (slug : String) (n : Nat) : String :=
  if n = 0 then slug else slug ++ "-" ++ Text.showNat n

/-- Sets the number to try next for a slug. -/
def setNext (r : SlugRegistry) (slug : String) (n : Nat) : SlugRegistry :=
  { r with next := (slug, n) :: r.next.filter (·.1 != slug) }

/-- Marks an id as taken; a slug that was never handed out will start at number one. -/
def reserve (r : SlugRegistry) (slug : String) : SlugRegistry :=
  let marked := { r with taken := slug :: r.taken }
  match r.next.lookup slug with
  | some _ => marked
  | none => marked.setNext slug 1

/-- The first number from `n` on whose id is free, sought among `fuel` candidates. -/
def firstFree (taken : List String) (slug : String) : Nat → Nat → Nat
  | 0, n => n
  | fuel + 1, n =>
    if taken.contains (numbered slug n) then firstFree taken slug fuel (n + 1) else n

/-- Hands out a slug, with the least number not yet tried that makes it free. -/
def claim (r : SlugRegistry) (slug : String) : String × SlugRegistry :=
  let n := firstFree r.taken slug r.taken.length (r.nextNumber slug)
  let id := numbered slug n
  (id, { r.setNext slug (n + 1) with taken := id :: r.taken })

/-- Hands out an id for a heading text. -/
def unique (r : SlugRegistry) (text : String) : String × SlugRegistry :=
  r.claim (slugify text)

end SlugRegistry

end MarkdownSections
