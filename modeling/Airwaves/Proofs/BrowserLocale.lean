import Airwaves.Locale.Catalog
import Airwaves.Proofs.Actions
import Mathlib.Data.List.Perm.Basic
/-!
# The locale a browser gets

The cookie's locale, else the closest locale to the `Accept-Language` codes by quality, else
the fallback; a quality after `; ` is never read.
-/

namespace Airwaves.RunSort

open List

variable {α : Type} (lt : α → α → Bool)

theorem binaryInsert_perm (s : Array α) (x : α) : (binaryInsert lt s x).toList ~ x :: s.toList := by
  simp only [binaryInsert, List.toList_toArray]
  exact perm_middle.trans (by rw [take_append_drop])

theorem foldl_binaryInsert_perm (rest : List α) (s : Array α) :
    (rest.foldl (binaryInsert lt) s).toList ~ s.toList ++ rest := by
  induction rest generalizing s with
  | nil => simp
  | cons x rest ih =>
    calc (rest.foldl (binaryInsert lt) (binaryInsert lt s x)).toList
        _ ~ (binaryInsert lt s x).toList ++ rest := ih _
        _ ~ x :: s.toList ++ rest := (binaryInsert_perm lt s x).append_right rest
        _ ~ s.toList ++ x :: rest := perm_middle.symm

/-- Whatever the order compares, sorting only moves items. -/
theorem sort_perm (xs : List α) : sort lt xs ~ xs := by
  unfold sort
  generalize leadingRun lt xs = lead
  obtain ⟨n, falling⟩ := lead
  -- the leading run is taken as it stands or reversed, so it holds the same items either way
  have run : (if falling then (xs.take n).reverse else xs.take n) ~ xs.take n := by
    split
    · exact reverse_perm _
    · exact Perm.refl _
  calc _ ~ (if falling then (xs.take n).reverse else xs.take n) ++ xs.drop n := by
          simpa using foldl_binaryInsert_perm lt (xs.drop n) (if falling then (xs.take n).reverse else xs.take n).toArray
    _ ~ xs.take n ++ xs.drop n := run.append_right _
    _ = xs := take_append_drop n xs

theorem sortDescending_perm (xs : List α) : sortDescending lt xs ~ xs :=
  (reverse_perm _).trans ((sort_perm lt _).trans (reverse_perm _))

end Airwaves.RunSort

namespace Airwaves.Locale

open List

/-! ### The header's codes -/

/-- The language codes of an `Accept-Language` header, in the order it lists them. -/
def listedCodes (header : String) : List String :=
  (header.splitOn ",").map fun language => ((Value.strip language).splitOn ";").headD ""

theorem headerCodes_perm (header : String) : headerCodes header ~ listedCodes header := by
  unfold headerCodes listedCodes
  refine ((RunSort.sortDescending_perm _ _).map Prod.fst).trans ?_
  simp [List.map_map, Function.comp_def]

/-! ### The closest locale to a list of codes -/

/-- The shipped code a code picks: itself when shipped, or else the first shipped code sharing
its first two letters. -/
def shippedFor (c : String) : Option String :=
  if isShipped (.str c) then some c else codes.find? fun name => lead c == lead name

/-- The code of the closest locale to a list of codes: the first code that picks one, or the
reference code. -/
def closestCode (cs : List String) : String := (cs.findSome? shippedFor).getD referenceCode

theorem pick_str (c : String) :
    pick (.str c) = match shippedFor c with
      | some n => some <$> obtain (.str n)
      | none => pure none := by
  unfold pick shippedFor
  by_cases shipped : isShipped (.str c) = true
  · simp [shipped]
  · cases found : codes.find? (fun name => lead c == lead name) <;> simp [shipped, leadOf, found]

theorem closestOf_strings (cs : List String) (w : World) :
    (closestOf (cs.map .str)).run w = (obtain (.str (closestCode cs))).run w := by
  induction cs generalizing w with
  | nil => rfl
  | cons c cs ih =>
    simp only [List.map_cons, closestOf, List.forIn_cons, pick_str]
    -- a code that picks nothing leaves the world as it was and the search goes on
    cases picked : shippedFor c with
    | none => simpa [closestOf, closestCode, picked] using ih w
    | some n => simp [closestCode, picked]

/-! ### The browser's locale -/

section Browser

variable {cookies headers : Dict} {request : Nat} {fallback : Value} {w : World}

theorem contains_dict_run (d : Dict) (k : String) (w : World) :
    (Act.lift (Value.contains (.dict d) (.str k))).run w = .ok (d.lookup? (.str k)).isSome w := rfl

theorem browserLocaleFrom_cookie {cookie code : Value} (found : cookies.lookup? (.str "rw_lang") = some cookie)
    (named : (attributeOf cookie "value").run w = .ok code w) (shipped : isShipped code = true) :
    (browserLocaleFrom (.dict cookies) (.ref request) fallback).run w = (obtain code).run w := by
  rw [browserLocaleFrom, run_bind_ok (contains_dict_run _ _ w), found]
  simp only [Option.isSome_some, if_true]
  rw [run_bind_ok (itemOf_dict_run found), run_bind_ok named, if_pos shipped]

/-- A cookie naming no shipped locale counts for nothing. -/
theorem browserLocaleFrom_unnamed
    (unnamed : ∀ cookie, cookies.lookup? (.str "rw_lang") = some cookie →
      ∃ code, (attributeOf cookie "value").run w = .ok code w ∧ isShipped code = false) :
    (browserLocaleFrom (.dict cookies) (.ref request) fallback).run w =
      (browserLocaleFrom (.dict []) (.ref request) fallback).run w := by
  rw [browserLocaleFrom, browserLocaleFrom, run_bind_ok (contains_dict_run _ _ w),
    run_bind_ok (contains_dict_run _ _ w)]
  cases found : cookies.lookup? (.str "rw_lang") with
  | none => rfl
  | some cookie =>
    obtain ⟨code, named, unshipped⟩ := unnamed cookie found
    simp only [Option.isSome_some, if_true]
    rw [run_bind_ok (itemOf_dict_run found), run_bind_ok named, unshipped]
    rfl

theorem browserLocaleFrom_header (requestHeaders : (attributeOf (.ref request) "headers").run w = .ok (.dict headers) w)
    {header : String} (given : headers.lookup? (.str "Accept-Language") = some (.str header)) :
    (browserLocaleFrom (.dict []) (.ref request) fallback).run w =
      (obtain (.str (closestCode (headerCodes header)))).run w := by
  rw [browserLocaleFrom, run_bind_ok (contains_dict_run _ _ w)]
  simp only [Dict.lookup?, List.find?_nil, Option.map_none, Option.isSome_none, Bool.false_eq_true, if_false]
  rw [run_bind_ok requestHeaders, run_bind_ok (contains_dict_run _ _ w), given]
  simp only [Option.isSome_some, if_true]
  rw [run_bind_ok (itemOf_dict_run given)]
  exact closestOf_strings _ w

theorem browserLocaleFrom_noHeader (requestHeaders : (attributeOf (.ref request) "headers").run w = .ok (.dict headers) w)
    (absent : headers.lookup? (.str "Accept-Language") = none) :
    (browserLocaleFrom (.dict []) (.ref request) fallback).run w = (obtain fallback).run w := by
  rw [browserLocaleFrom, run_bind_ok (contains_dict_run _ _ w)]
  simp only [Dict.lookup?, List.find?_nil, Option.map_none, Option.isSome_none, Bool.false_eq_true, if_false]
  rw [run_bind_ok requestHeaders, run_bind_ok (contains_dict_run _ _ w), absent]
  rfl

end Browser

/-- **The locale a browser gets.** For a request whose headers are a mapping: a cookie naming a
shipped locale picks it; with no such cookie, an `Accept-Language` header gets the closest locale
to its codes as sorted by quality, and no header gets the fallback. The sort keeps every code the
header lists, and a code whose parameter has a blank after the `;` counts as quality one,
whatever `q=` it gives. -/
theorem browserLocale_choice (cookies headers : Dict) (request : Nat) (fallback : Value) (w : World)
    (requestHeaders : (attributeOf (.ref request) "headers").run w = .ok (.dict headers) w) :
    (∀ cookie code, cookies.lookup? (.str "rw_lang") = some cookie → (attributeOf cookie "value").run w = .ok code w →
      isShipped code = true → (browserLocaleFrom (.dict cookies) (.ref request) fallback).run w = (obtain code).run w) ∧
    ((∀ cookie, cookies.lookup? (.str "rw_lang") = some cookie →
        ∃ code, (attributeOf cookie "value").run w = .ok code w ∧ isShipped code = false) →
      (∀ header, headers.lookup? (.str "Accept-Language") = some (.str header) →
        (browserLocaleFrom (.dict cookies) (.ref request) fallback).run w =
          (obtain (.str (closestCode (headerCodes header)))).run w) ∧
      (headers.lookup? (.str "Accept-Language") = none →
        (browserLocaleFrom (.dict cookies) (.ref request) fallback).run w = (obtain fallback).run w)) ∧
    (∀ header, headerCodes header ~ listedCodes header) ∧
    ∀ code param, quality [code, " " ++ param] = 1.0 := by
  refine ⟨fun _ _ found named shipped => browserLocaleFrom_cookie found named shipped, fun unnamed => ?_,
    headerCodes_perm, fun _ _ => by simp [quality]⟩
  rw [browserLocaleFrom_unnamed unnamed]
  exact ⟨fun _ given => browserLocaleFrom_header requestHeaders given,
    browserLocaleFrom_noHeader requestHeaders⟩

/-- A browser with no cookie asking for English at quality one half and German at quality
one tenth, the latter written with a blank after its `;`. -/
def acceptingBrowser : World :=
  { store := #[.record "HTTPRequest" [("headers", .dict [(.str "Accept-Language", .str "en;q=0.5, de; q=0.1")])]] }

theorem acceptingBrowser_locale :
    (browserLocaleFrom (.dict []) (.ref 0) (.str "en_CA")).run acceptingBrowser =
      (obtain (.str (closestCode (headerCodes "en;q=0.5, de; q=0.1")))).run acceptingBrowser ∧
    quality ["de", " " ++ "q=0.1"] = 1.0 :=
  have choice := browserLocale_choice [] [(.str "Accept-Language", .str "en;q=0.5, de; q=0.1")] 0 (.str "en_CA")
    acceptingBrowser rfl
  ⟨(choice.2.1 fun _ absent => by cases absent).1 _ rfl, choice.2.2.2 "de" "q=0.1"⟩


end Airwaves.Locale
