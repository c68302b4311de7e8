import Airwaves.Number.Double
/-!
# The Mersenne Twister

MT19937 seeded from a whole number, and the draws the service makes from it: bits, bounded
whole numbers, fractions and shuffles.
-/
namespace Airwaves.Chance

/-- The state of a generator: 624 words and the position of the next one to use. -/
structure Twister where
  words : Array UInt32
  index : Nat
  deriving Inhabited

namespace Twister

/-- The number of words of state. -/
def size : Nat := 624

/-- The word of state at a position. -/
def word (mt : Array UInt32) (i : Nat) : UInt32 := mt.getD i 0

/-- The state seeded from one word. -/
def ofWord (s : UInt32) : Array UInt32 :=
  (List.range (size - 1)).foldl (fun mt i =>
    let prev := word mt i
    mt.push ((1812433253 : UInt32) * (prev ^^^ (prev >>> 30)) + (i + 1).toUInt32)) #[s]

/-- The first mixing pass of array seeding: the state and the position it stopped at. -/
def mixKey (key : Array UInt32) : Nat → Array UInt32 → Nat → Nat → Array UInt32 × Nat
  | 0, mt, i, _ => (mt, i)
  | k + 1, mt, i, j =>
    let prev := word mt (i - 1)
    let v := (word mt i ^^^ ((prev ^^^ (prev >>> 30)) * 1664525)) + key.getD j 0 + j.toUInt32
    let mt := mt.set! i v
    let (mt, i) := if i + 1 ≥ size then (mt.set! 0 (word mt (size - 1)), 1) else (mt, i + 1)
    let j := if j + 1 ≥ key.size then 0 else j + 1
    mixKey key k mt i j

/-- The second mixing pass of array seeding. -/
def mixRest : Nat → Array UInt32 → Nat → Array UInt32
  | 0, mt, _ => mt
  | k + 1, mt, i =>
    let prev := word mt (i - 1)
    let v := (word mt i ^^^ ((prev ^^^ (prev >>> 30)) * 1566083941)) - i.toUInt32
    let mt := mt.set! i v
    let (mt, i) := if i + 1 ≥ size then (mt.set! 0 (word mt (size - 1)), 1) else (mt, i + 1)
    mixRest k mt i

/-- The 32-bit words of a whole number, least significant first; zero has one. -/
def keyWords (n : Nat) : Array UInt32 :=
  let rec go : Nat → Nat → List UInt32
    | 0, _ => []
    | fuel + 1, m => if m == 0 then [] else (m % 4294967296).toUInt32 :: go fuel (m / 4294967296)
  let ws := go (n + 1) n
  if ws.isEmpty then #[0] else ws.toArray

/-- A generator seeded from a whole number (its magnitude). -/
def seed (n : Int) : Twister :=
  let key := keyWords n.natAbs
  let (mt, i) := mixKey key (max size key.size) (ofWord 19650218) 1 0
  let mt := mixRest (size - 1) mt i
  { words := mt.set! 0 0x80000000, index := size }

/-- Refills the state. -/
def twist (mt : Array UInt32) : Array UInt32 :=
  (List.range size).foldl (fun mt i =>
    let y := (word mt i &&& 0x80000000) ||| (word mt ((i + 1) % size) &&& 0x7fffffff)
    let v := word mt ((i + 397) % size) ^^^ (y >>> 1) ^^^ (if y % 2 == 1 then 0x9908b0df else 0)
    mt.set! i v) mt

/-- Tempers a word of state. -/
def temper (y : UInt32) : UInt32 :=
  let y := y ^^^ (y >>> 11)
  let y := y ^^^ ((y <<< 7) &&& 0x9d2c5680)
  let y := y ^^^ ((y <<< 15) &&& 0xefc60000)
  y ^^^ (y >>> 18)

/-- Draws a 32-bit number. -/
def next (g : Twister) : UInt32 × Twister :=
  let g := if g.index ≥ size then { words := twist g.words, index := 0 } else g
  (temper (word g.words g.index), { g with index := g.index + 1 })

/-- Draws a number of random bits, 32 at a time with the first draw lowest. -/
def bits (k : Nat) (g : Twister) : Nat × Twister :=
  if k ≤ 32 then
    let (w, g) := g.next
    (w.toNat >>> (32 - k), g)
  else
    let rec go : Nat → Nat → Nat → Nat → Twister → Nat × Twister
      | 0, acc, _, _, g => (acc, g)
      | fuel + 1, acc, shift, left, g =>
        if left == 0 then (acc, g)
        else
          let (w, g) := g.next
          let take := min left 32
          let part := w.toNat >>> (32 - take)
          go fuel (acc + part * Nat.pow 2 shift) (shift + 32) (left - take) g
    go (k / 32 + 1) 0 0 k g

/-- The number of binary digits of a number. -/
def bitLength (n : Nat) : Nat := (Nat.log2 n) + (if n == 0 then 0 else 1)

/-- Draws a whole number below a positive bound; zero for a bound of zero. -/
def below (n : Nat) (g : Twister) : Nat × Twister :=
  if n == 0 then (0, g)
  else
    let k := bitLength n
    let rec go : Nat → Twister → Nat × Twister
      | 0, g => (0, g)
      | fuel + 1, g =>
        let (r, g) := bits k g
        if r < n then (r, g) else go fuel g
    go 10000 g

/-- Draws a whole number from a closed range. -/
def between (lo hi : Int) (g : Twister) : Int × Twister :=
  let (r, g) := below (hi - lo + 1).toNat g
  (lo + r, g)

/-- Draws a fraction in `[0, 1)` from 53 random bits. -/
def fraction (g : Twister) : Double × Twister :=
  let (a, g) := g.next
  let (b, g) := g.next
  let x := (a.toNat >>> 5) * 67108864 + (b.toNat >>> 6)
  (Double.ofRatio false x 9007199254740992, g)

/-- Shuffles a list: each position from the last down to the second swaps with a
position drawn at or before it. -/
def shuffle {α : Type} [Inhabited α] (xs : List α) (g : Twister) : List α × Twister :=
  let arr := xs.toArray
  let n := arr.size
  let (arr, g) := (List.range (n - 1)).foldl (fun (acc : Array α × Twister) step =>
    let (arr, g) := acc
    let i := n - 1 - step
    let (j, g) := below (i + 1) g
    let a := arr.getD i default
    let b := arr.getD j default
    ((arr.set! i b).set! j a, g)) (arr, g)
  (arr.toList, g)

end Twister

end Airwaves.Chance
