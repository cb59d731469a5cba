import MarkdownSections.Yaml.Scalar

/-!
# The order of the members of a set

A set gives its members in the order of their slots in a table. The hash of a member names the slot
that is tried first; while slots are taken, those right behind them are tried if the table goes on
far enough, and then one further away.

Only numbers and empty texts have one hash for all times. A set that holds anything else gives its
members in the order in which they are written.
-/

set_option autoImplicit false

namespace MarkdownSections.Yaml

namespace Scalar

/-- The prime modulo which numbers are hashed. -/
def hashPrime : Nat :=
  twoPow 61 - 1

/-- A remainder with a sign as a hash; minus one is none. -/
def signedHash (negative : Bool) (remainder : Nat) : Int :=
  if negative then (if remainder = 1 then -2 else -(remainder : Int)) else remainder

/-- The hash of a value, if it is the same for all times. Equal numbers have equal hashes: two to
the power of sixty-one counts as one. -/
def hash? : Scalar → Option Int
  | .bool b => some (if b then 1 else 0)
  | .int i => some (signedHash (i < 0) (i.natAbs % hashPrime))
  | .float (.finite negative m e) =>
    some (signedHash negative (m * twoPow (e % 61).toNat % hashPrime))
  | .float (.infinite negative) => some (signedHash negative 314159)
  | .text s => if s.isEmpty then some 0 else none
  | .bytes bs => if bs.isEmpty then some 0 else none
  | _ => none

end Scalar

namespace SetOrder

/-- The number of slots of a table for a number of members: a power of two. -/
def slotCount (members : Nat) : Nat :=
  if members < 5 then 8 else twoPow (Nat.log2 (2 * members) + 1)

/-- How many slots are tried behind a taken one. -/
def reach : Nat := 9

/-- The slots that are tried together with a slot. -/
def tried (size slot : Nat) : List Nat :=
  if slot + reach < size then (List.range (reach + 1)).map (slot + ·) else [slot]

/-- The slot for a member, from a slot on; `rest` is what is left of its hash. Once nothing is left,
the jumps reach every slot. -/
def freeSlot (size : Nat) (taken : List Nat) : Nat → Nat → Nat → Nat
  | 0, _, slot => slot
  | fuel + 1, rest, slot =>
    match (tried size slot).find? (!taken.contains ·) with
    | some free => free
    | none => freeSlot size taken fuel (rest / 32) ((5 * slot + 1 + rest / 32) % size)

/-- The slot for a member with a hash. -/
def slotOf (size : Nat) (taken : List Nat) (hash : Int) : Nat :=
  let bits := (hash % (twoPow 64 : Nat)).toNat
  freeSlot size taken (size + 14) bits (bits % size)

/-- The slots of members with these hashes. -/
def slots (size : Nat) (taken : List Nat) : List Int → List Nat
  | [] => []
  | hash :: hashes =>
    let slot := slotOf size taken hash
    slot :: slots size (slot :: taken) hashes

/-- The members of a set in their order. -/
def sort {α : Type} (scalar : α → Scalar) (members : List α) : List α :=
  match members.mapM fun m => (scalar m).hash? with
  | none => members
  | some hashes =>
    let placed := (slots (slotCount members.length) [] hashes).zip members
    (placed.mergeSort fun a b => a.1 ≤ b.1).map (·.2)

end SetOrder

end MarkdownSections.Yaml
