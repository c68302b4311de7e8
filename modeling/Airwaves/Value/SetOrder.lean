import Airwaves.Value.Basic
import Airwaves.Number.Decimal
/-!
# The order of a set of numbers

A set is walked slot by slot through its open-addressing table, so the order of its items
follows from their hashes and the order they were added in.
-/
namespace Airwaves.SetOrder

/-- The Mersenne prime modulo which numbers are hashed. -/
def modulus : Nat := Nat.pow 2 61 - 1

/-- A hash with its sign; `-1` is read as `-2`. -/
def signed (negative : Bool) (r : Nat) : Int :=
  let h : Int := if negative then -(r : Int) else r
  if h == -1 then -2 else h

/-- The hash of a whole number. -/
def hashInt (v : Int) : Int := signed (v < 0) (v.natAbs % modulus)

/-- The hash of a double; none for NaN, whose hash differs from run to run. -/
def hashFloat? (x : Double) : Option Int :=
  match Number.decode x with
  | some b => some (signed b.negative (b.mantissa % modulus * Nat.pow 2 (b.exponent % 61).toNat % modulus))
  | none => if x.isNaN then none else some (if x.negative then -314159 else 314159)

/-- The hash of a value that hashes the same in every run. -/
def hash? : Value → Option Int
  | .int v => some (hashInt v)
  | .bool b => some (if b then 1 else 0)
  | .float x => hashFloat? x
  | _ => none

/-- A hash as an unsigned 64-bit word. -/
def word (h : Int) : Nat := (h % (Nat.pow 2 64 : Int)).toNat

/-- The slots of a table: free, or an item with its hash word. -/
abbrev Slots := Array (Option (Nat × Value))

/-- The first free slot among `i` and, when they all lie in the table, the nine after it. -/
def freeNear (slots : Slots) (i : Nat) : Option Nat :=
  let span := if i + 9 ≤ slots.size - 1 then 10 else 1
  ((List.range span).map (i + ·)).find? fun j => (slots.getD j none).isNone

/-- Follows the probe sequence from slot `i` with perturbation `p` to a free slot. -/
def findFree (slots : Slots) (i p : Nat) : Nat → Option Nat
  | 0 => none
  | fuel + 1 =>
    match freeNear slots i with
    | some j => some j
    | none => findFree slots ((i * 5 + 1 + p / 32) % slots.size) (p / 32) fuel

/-- Puts an item into the first free slot of its probe sequence. Once the perturbation
has run out the jumps visit every slot, so sixteen jumps more than the table has slots
always find the free slot a growing table keeps. -/
def place (slots : Slots) (item : Nat × Value) : Slots :=
  match findFree slots (item.1 % slots.size) item.1 (slots.size + 16) with
  | some j => slots.set! j (some item)
  | none => slots

/-- The smallest power of two from `size` on that exceeds `least`. -/
def grownSize (least : Nat) : Nat → Nat → Nat
  | 0, size => size
  | fuel + 1, size => if size > least then size else grownSize least fuel (size * 2)

/-- Adds a new item to a table holding `used` items, growing it when it is full enough. -/
def add (slots : Slots) (used : Nat) (item : Nat × Value) : Slots :=
  let slots := place slots item
  let used := used + 1
  if used * 5 < (slots.size - 1) * 3 then slots
  else
    let least := if used > 50000 then used * 2 else used * 4
    let size := grownSize least (least + 1) 8
    (slots.toList.filterMap id).foldl place (Array.replicate size none)

/-- The slots after adding distinct hashed items in order. -/
def fill (items : List (Nat × Value)) : Slots :=
  (items.foldl (fun (acc : Slots × Nat) item => (add acc.1 acc.2 item, acc.2 + 1))
    (Array.replicate 8 none, 0)).1

/-- The order in which a set built from distinct items walks them. -/
def order (items : List Value) : List Value :=
  match items.mapM fun v => (hash? v).map fun h => (word h, v) with
  | some hashed => (fill hashed).toList.filterMap (·.map (·.2))
  | none => items

end Airwaves.SetOrder
