import Airwaves.Value.Text
/-!
# Writing JSON text

A value as JSON text, in the separators and escaping of a `Style`.
-/
namespace Airwaves.Json

/-- Separators and escaping of a JSON text. -/
structure Style where
  itemSeparator : String
  keySeparator : String
  asciiOnly : Bool

/-- The service's default: `", "` and `": "`, every character beyond ASCII escaped. -/
def Style.spaced : Style := ⟨", ", ": ", true⟩

/-- Spaced separators, characters beyond ASCII written as they are. -/
def Style.spacedUnicode : Style := ⟨", ", ": ", false⟩

/-- No blanks, characters beyond ASCII written as they are. -/
def Style.compact : Style := ⟨",", ":", false⟩

/-- Why a value has no JSON text. -/
inductive WriteError where
  | unsupported (kindName : String)
  | badKey (kindName : String)

/-- The error's message text. -/
def WriteError.message : WriteError → String
  | .unsupported k => "Object of type " ++ k ++ " is not JSON serializable"
  | .badKey k => "keys must be str, int, float, bool or None, not " ++ k

/-- Escapes a text inside double quotes. -/
def escapeText (asciiOnly : Bool) (s : String) : String :=
  let unit (n : Nat) := "\\u" ++ Value.hexPad 4 n
  let body := s.toList.foldl (fun acc c =>
    let n := c.toNat
    if c == '"' then acc ++ "\\\""
    else if c == '\\' then acc ++ "\\\\"
    else if c == '\n' then acc ++ "\\n"
    else if c == '\r' then acc ++ "\\r"
    else if c == '\t' then acc ++ "\\t"
    else if n == 8 then acc ++ "\\b"
    else if n == 12 then acc ++ "\\f"
    else if n < 0x20 then acc ++ unit n
    else if asciiOnly && n > 0x7e then
      if n < 0x10000 then acc ++ unit n
      else
        let m := n - 0x10000
        acc ++ unit (0xd800 + m / 0x400) ++ unit (0xdc00 + m % 0x400)
    else acc.push c) ""
  "\"" ++ body ++ "\""

/-- JSON text of a double: the shortest form, `NaN` and `Infinity` for the others. -/
def floatText (x : Double) : String :=
  if x.isNaN then "NaN" else if x.isInf then (if x.negative then "-Infinity" else "Infinity")
  else FloatText.shortest x

/-- The text a mapping key is written as. -/
def keyText : Value → Except WriteError String
  | .str s => .ok s
  | .int n => .ok (toString n)
  | .bool b => .ok (if b then "true" else "false")
  | .none => .ok "null"
  | .float x => .ok (floatText x)
  | v => .error (.badKey v.kindName)

mutual
/-- JSON text of a value. -/
def write (st : Style) : Value → Except WriteError String
  | .none => .ok "null"
  | .bool b => .ok (if b then "true" else "false")
  | .int n => .ok (toString n)
  | .float x => .ok (floatText x)
  | .str s => .ok (escapeText st.asciiOnly s)
  | .list xs => do return "[" ++ (← writeList st xs) ++ "]"
  | .tuple xs => do return "[" ++ (← writeList st xs) ++ "]"
  | .dict es => do return "\x7b" ++ (← writeEntries st es) ++ "\x7d"
  | v => .error (.unsupported v.kindName)
/-- Items of an array. -/
def writeList (st : Style) : List Value → Except WriteError String
  | [] => .ok ""
  | [x] => write st x
  | x :: rest => do return (← write st x) ++ st.itemSeparator ++ (← writeList st rest)
/-- Members of an object. -/
def writeEntries (st : Style) : Dict → Except WriteError String
  | [] => .ok ""
  | [(k, v)] => do return escapeText st.asciiOnly (← keyText k) ++ st.keySeparator ++ (← write st v)
  | (k, v) :: rest => do
    return escapeText st.asciiOnly (← keyText k) ++ st.keySeparator ++ (← write st v) ++
      st.itemSeparator ++ (← writeEntries st rest)
end

mutual
/-- The value read back from its JSON text: tuples become lists and keys become text. -/
def normalize : Value → Except WriteError Value
  | .list xs => do return .list (← normalizeList xs)
  | .tuple xs => do return .list (← normalizeList xs)
  | .dict es => do return .dict (← normalizeEntries es)
  | .float x => .ok (.float x)
  | v@(.none) | v@(.bool _) | v@(.int _) | v@(.str _) => .ok v
  | v => .error (.unsupported v.kindName)
/-- Items read back. -/
def normalizeList : List Value → Except WriteError (List Value)
  | [] => .ok []
  | x :: rest => do return (← normalize x) :: (← normalizeList rest)
/-- Members read back, a repeated key keeping its first place and last value. -/
def normalizeEntries : Dict → Except WriteError Dict
  | [] => .ok []
  | (k, v) :: rest => do
    let key := Value.str (← keyText k)
    let tail ← normalizeEntries rest
    let value ← normalize v
    return if Dict.hasKey tail key then (key, (Dict.lookup? tail key).getD value) :: Dict.without tail key
      else (key, value) :: tail
end

end Airwaves.Json
