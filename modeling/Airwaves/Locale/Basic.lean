import Airwaves.Value.Text
/-!
# Translations

A locale is a table from keys to phrases with `%(name)`, `#(name)` and `&(name:one/many)`
placeholders; a key the locale lacks translates to `[[ key ]]`.
-/
namespace Airwaves

/-- A locale: its code, its table (the master table overlaid with its own phrases) and
the master phrases it does not translate. -/
structure Locale where
  code : Value
  dict : Dict
  missing : Dict
  deriving Inhabited

namespace Locale

/-- Builds a locale from the master table and a translation. Phrases whose keys the
master lacks are dropped, except suffixes and except for the reference locale
`keepAll`. -/
def build (code : Value) (master translation : Dict) (keepAll : Bool) : Locale :=
  let kept := translation.filter fun e =>
    keepAll || Dict.hasKey master e.1 ||
      (match e.1 with | .str k => k.startsWith "suffix_" | _ => false)
  { code := code, dict := Dict.merge master kept,
    missing := master.filter fun e => !Dict.hasKey kept e.1 }

/-- The phrase under a key. -/
def phrase? (l : Locale) (key : String) : Option Value := Dict.field? l.dict key

/-- Why a phrase could not be completed. -/
inductive TranslateFault where
  /-- A plural placeholder without a closing parenthesis. -/
  | unclosedPlural
  /-- A suffix entry that is not text, which cannot follow a number; its kind. -/
  | suffixNotText (kind : String)
  deriving DecidableEq

/-- The text a number is suffixed as: a text as it is, any other value as displayed. -/
def numberText : Value → String
  | .str s => s
  | v => v.display

/-- The ending of a text from a position on. -/
def ending (t : String) (i : Nat) : String := String.ofList (t.toList.drop i)

/-- Whether the locale has a suffix for an ending. -/
def hasSuffix (l : Locale) (e : String) : Bool := Dict.hasKey l.dict (.str ("suffix_" ++ e))

/-- A number's text followed by the suffix of an ending, which must be text. -/
def withSuffix (l : Locale) (text e : String) : Except TranslateFault String :=
  match Dict.field? l.dict ("suffix_" ++ e) with
  | some (.str s) => .ok (text ++ s)
  | some v => .error (.suffixNotText v.kindName)
  | none => .ok text

/-- A number followed by the suffix for its longest ending that has one; endings are tried
from the whole text on, and endings of one character are never looked up. -/
def suffixed (l : Locale) (number : Value) : Except TranslateFault String :=
  let text := numberText number
  match (List.range (text.length - 1)).find? (fun i => l.hasSuffix (ending text i)) with
  | some i => l.withSuffix text (ending text i)
  | none => .ok text

/-- Position of the first occurrence of a pattern at or after a position. -/
def findFrom (s pattern : String) (start : Nat) : Option Nat :=
  let cs := s.toList
  let ps := pattern.toList
  (List.range (cs.length + 1)).find? fun i => start ≤ i && (cs.drop i).take ps.length == ps

/-- The characters of a text from one position to another. -/
def slice (s : String) (a b : Nat) : String := String.ofList ((s.toList.drop a).take (b - a))

/-- Replaces every occurrence of a nonempty pattern in a list of characters, from the left; what
is put in is not searched again. -/
def replaceChars (pattern replacement : List Char) : List Char → List Char
  | [] => []
  | c :: rest =>
    if !pattern.isEmpty && pattern.isPrefixOf (c :: rest) then
      replacement ++ replaceChars pattern replacement ((c :: rest).drop pattern.length)
    else c :: replaceChars pattern replacement rest
termination_by s => s.length
decreasing_by
  · rename_i found
    have long : 0 < pattern.length := by
      cases pattern with
      | nil => simp at found
      | cons => simp
    simp only [List.length_drop, List.length_cons]
    omega
  · simp

/-- Replaces every occurrence of a nonempty pattern. -/
def replaceAll (s pattern replacement : String) : String :=
  String.ofList (replaceChars pattern.toList replacement.toList s.toList)

/-- Replaces `%(name)` by the display text of the argument. -/
def fillValue (line name : String) (v : Value) : String :=
  if line.contains '%' then replaceAll line ("%(" ++ name ++ ")") v.display else line

/-- Replaces `#(name)` by the number followed by its suffix, when the line holds it. -/
def fillNumber (l : Locale) (line name : String) (v : Value) : Except TranslateFault String :=
  let hashTag := "#(" ++ name ++ ")"
  if (findFrom line hashTag 0).isSome then (replaceAll line hashTag ·) <$> l.suffixed v
  else .ok line

/-- Applies one argument to a phrase. `error` carries the text that replaces the whole
phrase when a plural placeholder has no `/`. -/
def applyArgument (l : Locale) (line : String) (name : String) (v : Value) :
    Except TranslateFault (Sum String String) := do
  let line := fillValue line name v
  let numeric := match v with
    | .int _ | .float _ => true
    | _ => false
  if !numeric then return .inl line
  let line ← l.fillNumber line name v
  let pluralTag := "&(" ++ name ++ ":"
  match findFrom line pluralTag 0 with
  | none => .ok (.inl line)
  | some found =>
    match findFrom line ")" found with
    | none => .error .unclosedPlural
    | some close =>
      let whole := slice line found (close + 1)
      let inner := slice whole 0 (whole.length - 1)
      match inner.splitOn ":" with
      | _ :: restParts =>
        let single := ":".intercalate restParts
        if !(single.contains '/') then .ok (.inr ("[[" ++ name ++ " plural error ]]"))
        else
          let parts := single.splitOn "/"
          let first := parts.headD ""
          let rest := "/".intercalate (parts.drop 1)
          let choice := if Value.equals v (.int 1) then first else rest
          .ok (.inl (replaceAll line whole choice))
      | [] => .ok (.inl line)

/-- Translates a key with named arguments, in order. -/
def translate (l : Locale) (key : String) (args : List (String × Value)) :
    Except TranslateFault String :=
  match l.phrase? key with
  | none => .ok ("[[ " ++ key ++ " ]]")
  | some phrase =>
    let start := match phrase with
      | .str s => s
      | v => v.display
    go start args
where
  go (line : String) : List (String × Value) → Except TranslateFault String
    | [] => .ok line
    | (name, v) :: rest =>
      match l.applyArgument line name v with
      | .error e => .error e
      | .ok (.inr early) => .ok early
      | .ok (.inl next) => go next rest

end Locale

end Airwaves
