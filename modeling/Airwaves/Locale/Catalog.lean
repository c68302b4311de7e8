import Airwaves.World
import Airwaves.Json.Read
import Airwaves.Locale.Tables
import Airwaves.Value.RunSort
/-!
# The loaded locales

One translation per locale code, built the first time it is asked for, and how a client's loose
naming of a locale (codes, `Accept-Language`, a cookie) picks one; the default is `en_CA`.
-/
namespace Airwaves.Locale

/-- The code of the reference locale, which keeps phrases the master lacks. -/
def referenceCode : String := "en_CA"

/-- The codes of the shipped translations, in load order. -/
def codes : List String := Tables.translations.map (·.1)

/-- A JSON table given as text. -/
def table (text : String) : Dict :=
  match Json.read text with
  | .ok (.dict d) => d
  | _ => []

/-- The master table. -/
def master : Dict := table Tables.enMASTER

/-- Whether a translation is shipped for a code. -/
def isShipped (code : Value) : Bool := codes.any fun c => Value.equals (.str c) code

/-- The locale object of a shipped code, built on first use; a missing key otherwise. -/
def obtain (code : Value) : Act Value := do
  let name ← match code with
    | .str s => pure s
    | _ => Act.raise (.missingKey code)
  match (← get).locales.find? (·.1 == name) with
  | some (_, h) => return .ref h
  | none =>
    match Tables.translations.find? (·.1 == name) with
    | none => Act.raise (.missingKey code)
    | some (_, text) =>
      let l := Locale.build code master (table text) (name == referenceCode)
      let h ← alloc (.locale l)
      modify fun w => { w with locales := w.locales ++ [(name, h)] }
      return .ref h

/-- The shipped locales in the order the service finds their files in its language
directory, which is the order of its list of language names. -/
def listingOrder : List String :=
  ["nl_NL", "pt_BR", "es_CL", "pl_PL", "ru_RU", "ko_KO", "en_CA", "de_DE", "fi_FI"]

/-- Each shipped locale's short language name, in listing order. -/
def shortNames : Dict :=
  listingOrder.filterMap fun c => (Tables.translations.find? (·.1 == c)).map fun (_, text) =>
    let l := Locale.build (.str c) master (table text) (c == referenceCode)
    (.str c, (Dict.field? l.dict "language_name_short").getD .none)

/-- Builds a locale object from a code, a master table and a translation. -/
def construct (code masterTable translation : Value) : Act Value := do
  let m := (masterTable.entries?).getD []
  let t := (translation.entries?).getD []
  allocRef (.locale (Locale.build code m t (Value.equals code (.str referenceCode))))

/-- The first two characters of a text. -/
def lead (s : String) : String := String.ofList (s.toList.take 2)

/-- A code compared with the shipped codes by its first two letters: text is cut to two
characters and never matches otherwise; a value that cannot be cut is refused. -/
def leadOf (c : Value) : Act String :=
  match c with
  | .str s => return lead s
  | .list _ | .tuple _ => return ""
  | v => do Act.raise (.typeError ("'" ++ (← kindNameOf v) ++ "' object is not subscriptable"))

/-- The locale for one code of a preference list, if it picks one: the code shipped
exactly, or else the first locale sharing its first two letters. A code that cannot be
looked up (a list or a mapping) is refused. -/
def pick (c : Value) : Act (Option Value) := do
  match c with
  | .list _ | .dict _ | .set _ => Act.raise (.typeError ("unhashable type: '" ++ c.kindName ++ "'"))
  | _ => pure ()
  if isShipped c then return some (← obtain c)
  let text ← leadOf c
  match codes.find? (fun name => text == lead name) with
  | some name => return some (← obtain (.str name))
  | none => return none

/-- The locale for a list of codes in order of preference: the first code that picks a
locale, trying codes in order; otherwise the reference locale. -/
def closestOf (candidates : List Value) : Act Value := do
  for c in candidates do
    if let some l ← pick c then return l
  obtain (.str referenceCode)

/-- The codes of a preference list by position: the items of a list, the characters of a
text, or the entries of a mapping under the keys 0, 1, and so on (a missing key is
refused when it is reached). A value without a length is refused. -/
def candidatesOf (v : Value) : Act (List (Act Value)) := do
  match v with
  | .list xs | .tuple xs => return xs.map pure
  | .str s => return s.toList.map fun c => pure (.str c.toString)
  | .dict es => return (List.range es.length).map fun (i : Nat) => itemOf (.dict es) (.int (Int.ofNat i))
  | _ => do Act.raise (.typeError ("object of type '" ++ (← kindNameOf v) ++ "' has no len()"))

/-- The locale for a preference list read position by position. -/
def closestAt (candidates : List (Act Value)) : Act Value := do
  for c in candidates do
    if let some l ← pick (← c) then return l
  obtain (.str referenceCode)

/-- The closest locale to the codes given, as the positional arguments of the call:
one argument is the preference list itself, more are read as the first one. -/
def closest (args : List Value) : Act Value :=
  match args with
  | [] => Act.fail .indexError "tuple index out of range"
  | first :: _ => do closestAt (← candidatesOf first)

/-- The quality of one language in an `Accept-Language` header: the number after `q=`,
zero when it does not read, one when absent. -/
def quality (parts : List String) : Double :=
  match parts with
  | _ :: q :: _ =>
    if q.startsWith "q=" then
      (Value.parseFloat? (q.drop 2).toString).getD 0.0
    else 1.0
  | _ => 1.0

/-- The codes of an `Accept-Language` header, best first (equal qualities, and qualities
that are not numbers, keep their order as a descending run sort leaves them). -/
def headerCodes (header : String) : List String :=
  let entries := (header.splitOn ",").map fun language =>
    let parts := (Value.strip language).splitOn ";"
    (parts.headD "", quality parts)
  (RunSort.sortDescending (fun a b => a.2 < b.2) entries).map (·.1)

/-- The locale of a browser from its cookies and request: the cookie `rw_lang` when it
names a shipped locale, else the closest to the `Accept-Language` header, else the
fallback code. -/
def browserLocaleFrom (cookies request fallback : Value) : Act Value := do
  if ← Act.lift (Value.contains cookies (.str "rw_lang")) then
    let cookie ← itemOf cookies (.str "rw_lang")
    let code ← attributeOf cookie "value"
    if isShipped code then return ← obtain code
  let headers ← attributeOf request "headers"
  if ← Act.lift (Value.contains headers (.str "Accept-Language")) then
    match ← itemOf headers (.str "Accept-Language") with
    | .str header => return ← closestOf ((headerCodes header).map .str)
    | v => noMember v "split"
  obtain fallback

/-- The locale of the browser behind a handler. -/
def browserLocale (handler fallback : Value) : Act Value := do
  let cookies ← attributeOf handler "cookies"
  browserLocaleFrom cookies (← attributeOf handler "request") fallback

/-- The failure a phrase that cannot be completed raises: a plural placeholder without its
parenthesis reads past the end, and a suffix that is not text cannot be joined to text. -/
def TranslateFault.toFault : TranslateFault → Fault
  | .unclosedPlural => Fault.indexOut
  | .suffixNotText kind => .typeError ("can only concatenate str (not \"" ++ kind ++ "\") to str")

/-- Translates a key of a locale object with named arguments. -/
def translateWith (locale key : Value) (args : List (String × Value)) : Act Value := do
  let l ← localeAt locale
  let k ← match key with
    | .str s => pure s
    | _ => Act.raise (.typeError ("can only concatenate str (not \"" ++ key.kindName ++ "\") to str"))
  match l.translate k args with
  | .ok s => return .str s
  | .error e => Act.raise e.toFault

/-- A number with the suffix a locale object gives its ending. -/
def suffixedWith (locale number : Value) : Act Value := do
  match (← localeAt locale).suffixed number with
  | .ok s => return .str s
  | .error e => Act.raise e.toFault

end Airwaves.Locale
