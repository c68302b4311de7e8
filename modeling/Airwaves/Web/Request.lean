import Airwaves.Api.Handler
/-!
# HTTP requests

The arguments, address, headers and cookies of a request that arrives over HTTP; header names
are matched whatever their case.
-/
namespace Airwaves.Web

open Api

/-- A word with its first letter in upper case and the rest in lower case. -/
def capitalized (word : String) : String :=
  match word.toList with
  | [] => ""
  | c :: cs => String.ofList (c.toUpper :: cs.map Char.toLower)

/-- A header name in its canonical spelling: each dash-separated word capitalised. -/
def canonicalHeader (name : String) : String :=
  "-".intercalate ((name.splitOn "-").map capitalized)

/-- The network place of an address (the part after `//` up to the path), empty when the
address has none. A scheme is read only when it starts with a letter. -/
def hostOf (address : String) : String :=
  let cs := address.toList
  let schemeLength := (cs.takeWhile fun c => c.isAlphanum || c == '+' || c == '-' || c == '.').length
  let rest :=
    if 0 < schemeLength && cs.getD schemeLength ' ' == ':' && (cs.headD ' ').isAlpha then
      cs.drop (schemeLength + 1)
    else cs
  match rest with
  | '/' :: '/' :: more => String.ofList (more.takeWhile fun c => c != '/' && c != '?' && c != '#')
  | _ => ""

/-- A request from its arguments, headers, cookies (name and text) and address. -/
def newRequest (arguments headers cookies address : Value) : Act Value := do
  let headerEntries : Dict := match headers with
    | .dict es => es.map fun (k, x) => (.str (canonicalHeader k.display), x)
    | _ => []
  let cookieEntries ← match cookies with
    | .dict es => es.mapM fun (k, x) => do
        return (k, ← allocRef (.record "Morsel" [("key", k), ("value", x)]))
    | _ => pure []
  allocRef (.record "HTTPServerRequest" [("arguments", arguments), ("remote_ip", address),
    ("headers", .dict headerEntries), ("cookies", .dict cookieEntries)])

/-- The request a handler serves. -/
def requestOf (v : Value) : Act Value := attributeOf v "request"

/-- The address a request came from. -/
def remoteAddress (v : Value) : Act Value := do attributeOf (← requestOf v) "remote_ip"

/-- A header of the request, none when it has none. -/
def header (v : Value) (name : String) : Act Value := do
  match ← attributeOf (← requestOf v) "headers" with
  | .dict es => return (Dict.field? es (canonicalHeader name)).getD .none
  | _ => return .none

end Airwaves.Web
