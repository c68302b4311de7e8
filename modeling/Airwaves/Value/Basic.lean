import Airwaves.Number.Double
/-!
# Dynamic values

`Value` is the loosely typed tree of arguments, rows, cached entries and answers, with the
equality and order of the data model the service was built on.
-/
namespace Airwaves

/-- A moment as microseconds since the epoch, read as a wall-clock time in UTC. -/
structure Instant where
  micros : Int
  deriving Repr, Inhabited, BEq, DecidableEq

/-- A loosely typed value. -/
inductive Value where
  | none
  | bool (b : Bool)
  | int (n : Int)
  | float (x : Double)
  | str (s : String)
  | bytes (data : List UInt8)
  | list (items : List Value)
  | tuple (items : List Value)
  | dict (entries : List (Value × Value))
  | set (items : List Value)
  | time (t : Instant)
  /-- An object of the world's store, by handle. -/
  | ref (handle : Nat)
  /-- A class, by name. -/
  | kind (name : String)
  /-- A function or bound method, by name; `self` is the object it is bound to. -/
  | func (name : String) (self : Option Nat)
  deriving Inhabited, Repr

/-- Ordered entries of a mapping. -/
abbrev Dict := List (Value × Value)

namespace Value

instance : Coe String Value := ⟨Value.str⟩
instance : Coe Int Value := ⟨Value.int⟩
instance : Coe Bool Value := ⟨Value.bool⟩

/-- A natural number as a value. -/
def nat (n : Nat) : Value := .int n

/-- An optional value, `none` becoming `Value.none`. -/
def ofOption : Option Value → Value
  | some v => v
  | Option.none => .none

/-- The numeric reading of a value: booleans count as `0` and `1`. -/
inductive Number where
  | whole (n : Int)
  | real (x : Double)

/-- Reads a value as a number, if it is one. -/
def number? : Value → Option Number
  | .bool b => some (.whole (if b then 1 else 0))
  | .int n => some (.whole n)
  | .float x => some (.real x)
  | _ => Option.none

/-- The number as a double. -/
def Number.toDouble : Number → Double
  | .whole n => Double.ofInt n
  | .real x => x

/-- Whether the value is a number (booleans included). -/
def isNumber (v : Value) : Bool := v.number?.isSome

/-- Whether the value is a whole number and not a boolean. -/
def isInt : Value → Bool
  | .int _ => true
  | _ => false

/-- Compares two numbers by their exact values; a NaN compares equal to everything here,
which the comparisons that see one rule out first. -/
def Number.cmp : Number → Number → Ordering
  | .whole a, .whole b => compare a b
  | .real x, .whole b => (x.compareInt? b).getD .eq
  | .whole a, .real y => ((y.compareInt? a).map Ordering.swap).getD .eq
  | .real x, .real y => (x.compare? y).getD .eq

mutual
/-- Equality of the data model: numbers by value, sequences and mappings by content,
objects by identity. -/
def equals : Value → Value → Bool
  | .none, .none => true
  | .str a, .str b => a == b
  | .bytes a, .bytes b => a == b
  | .list a, .list b => equalsList a b
  | .tuple a, .tuple b => equalsList a b
  | .set a, .set b => a.length == b.length && equalsSet a b
  | .dict a, .dict b => a.length == b.length && equalsDict a b
  | .time a, .time b => a == b
  | .ref a, .ref b => a == b
  | .kind a, .kind b => a == b
  | .func a x, .func b y => a == b && x == y
  | .bool a, .bool b => a == b
  | .bool a, .int b => (if a then 1 else 0) == b
  | .int a, .bool b => a == (if b then 1 else 0)
  | .int a, .int b => a == b
  | .float a, .float b => a.equals b
  | .float a, .int b => a.compareInt? b == some .eq
  | .int a, .float b => b.compareInt? a == some .eq
  | .float a, .bool b => a.compareInt? (if b then 1 else 0) == some .eq
  | .bool a, .float b => b.compareInt? (if a then 1 else 0) == some .eq
  | _, _ => false
termination_by structural a => a
/-- Element-wise equality of two sequences. -/
def equalsList : List Value → List Value → Bool
  | [], [] => true
  | a :: as, b :: bs => equals a b && equalsList as bs
  | _, _ => false
termination_by structural as => as
/-- Every member of the first collection is a member of the second. -/
def equalsSet : List Value → List Value → Bool
  | [], _ => true
  | a :: as, bs => bs.any (fun b => equals a b) && equalsSet as bs
termination_by structural as => as
/-- Every entry of the first mapping is an entry of the second. -/
def equalsDict : Dict → Dict → Bool
  | [], _ => true
  | (k, v) :: rest, other =>
    (match other.find? (fun e => equals k e.1) with
     | some e => equals v e.2
     | Option.none => false) && equalsDict rest other
termination_by structural es => es
end

instance : BEq Value := ⟨equals⟩

/-- Truth of a value: empty, zero and `none` are false. Objects are true. -/
def truthy : Value → Bool
  | .none => false
  | .bool b => b
  | .int n => n != 0
  | .float x => !x.isZero
  | .str s => !s.isEmpty
  | .bytes b => !b.isEmpty
  | .list xs => !xs.isEmpty
  | .tuple xs => !xs.isEmpty
  | .dict es => !es.isEmpty
  | .set xs => !xs.isEmpty
  | _ => true

/-- Name of the kind of a plain value; objects are named by the store. -/
def kindName : Value → String
  | .none => "NoneType"
  | .bool _ => "bool"
  | .int _ => "int"
  | .float _ => "float"
  | .str _ => "str"
  | .bytes _ => "bytes"
  | .list _ => "list"
  | .tuple _ => "tuple"
  | .dict _ => "dict"
  | .set _ => "set"
  | .time _ => "datetime"
  | .ref _ => "object"
  | .kind _ => "type"
  | .func _ _ => "function"

/-- Rank of a kind in the order across kinds: `none`, then numbers, then the rest. -/
def kindRank : Value → Nat
  | .none => 0
  | .bool _ | .int _ | .float _ => 1
  | _ => 2

mutual
/-- The order of the data model: across kinds by rank and then by kind name, within a
kind by content (sequences lexicographically). -/
def order : Value → Value → Ordering
  | .none, .none => .eq
  | .str a, .str b => compare a b
  | .list a, .list b => orderList a b
  | .tuple a, .tuple b => orderList a b
  | .ref a, .ref b => compare a b
  | .time a, .time b => compare a.micros b.micros
  | a, b =>
    match a.number?, b.number? with
    | some x, some y => x.cmp y
    | _, _ =>
      match compare a.kindRank b.kindRank with
      | .eq => compare a.kindName b.kindName
      | o => o
termination_by structural a => a
/-- Lexicographic order of sequences. -/
def orderList : List Value → List Value → Ordering
  | [], [] => .eq
  | [], _ :: _ => .lt
  | _ :: _, [] => .gt
  | a :: as, b :: bs =>
    match order a b with
    | .eq => orderList as bs
    | o => o
termination_by structural as => as
end

/-- `a < b` in the data model's order. -/
def lt (a b : Value) : Bool := order a b == .lt

end Value

namespace Dict

/-- The value under a key, by data-model equality of keys. -/
def lookup? (d : Dict) (k : Value) : Option Value :=
  (d.find? fun e => Value.equals e.1 k).map (·.2)

/-- The value under a text key. -/
def field? (d : Dict) (k : String) : Option Value := d.lookup? (.str k)

/-- Whether the key is present. -/
def hasKey (d : Dict) (k : Value) : Bool := (d.lookup? k).isSome

/-- Sets a key: an existing key keeps its place, a new one goes last. -/
def put (d : Dict) (k v : Value) : Dict :=
  if d.hasKey k then d.map fun e => if Value.equals e.1 k then (e.1, v) else e
  else d ++ [(k, v)]

/-- Sets a text key. -/
def putField (d : Dict) (k : String) (v : Value) : Dict := d.put (.str k) v

/-- Removes a key. -/
def without (d : Dict) (k : Value) : Dict := d.filter fun e => !Value.equals e.1 k

/-- Sets every entry of the second mapping in the first, in order. -/
def merge (d other : Dict) : Dict := other.foldl (fun acc e => Dict.put acc e.1 e.2) d

/-- The keys in order. -/
def keyList (d : Dict) : List Value := d.map (·.1)

/-- The values in order. -/
def valueList (d : Dict) : List Value := d.map (·.2)

/-- A mapping with text keys. -/
def ofStrings (entries : List (String × Value)) : Dict := entries.map fun e => (.str e.1, e.2)

end Dict

namespace Value

/-- The entries of a mapping value. -/
def entries? : Value → Option Dict
  | .dict es => some es
  | _ => Option.none

/-- Looks up a text key of a mapping value. -/
def field? (v : Value) (k : String) : Option Value := v.entries? >>= fun d => Dict.field? d k

/-- Looks up a text key of a mapping value, `none` when absent. -/
def field (v : Value) (k : String) : Value := (v.field? k).getD .none

/-- Items of a sequence value (list or tuple). -/
def items? : Value → Option (List Value)
  | .list xs => some xs
  | .tuple xs => some xs
  | _ => Option.none

/-- A mapping value from text keys. -/
def record (entries : List (String × Value)) : Value := .dict (Dict.ofStrings entries)

/-- The whole number of a value, if it is one (booleans included). -/
def int? : Value → Option Int
  | .int n => some n
  | .bool b => some (if b then 1 else 0)
  | _ => Option.none

/-- The text of a value, if it is text. -/
def str? : Value → Option String
  | .str s => some s
  | _ => Option.none

/-- Whether the value is `none`. -/
def isNone : Value → Bool
  | .none => true
  | _ => false

end Value

end Airwaves
