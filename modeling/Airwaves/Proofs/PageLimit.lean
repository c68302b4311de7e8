import Airwaves.Proofs.ArgumentReading
import Airwaves.Api.Reports
/-!
# The limit clause of a paged listing

Over the web, the set-up step writes the paging fields into the endpoint's table and the clause
is made of fixed words and decimal digits; in a process where no set-up step wrote them, a
websocket message's `per_page` goes into the query as it is.
-/

namespace Airwaves

theorem less_int_zero (k : Int) : Value.less (.int k) (.int 0) = decide (k < 0) := by
  simp only [Value.less, Value.order, Value.number?, Value.Number.cmp]
  rw [Bool.eq_iff_iff]
  simp [Int.compare_eq_lt]

namespace Fields

theorem integer_str (s : String) : integer (.str s) = .none ∨ ∃ k, integer (.str s) = .int k := by
  unfold integer
  simp only [isNumber, Bool.false_eq_true, if_false]
  split
  · split
    · exact .inr ⟨_, rfl⟩
    · exact .inl rfl
  · exact .inl rfl

theorem zeroOrGreaterInteger_str (s : String) :
    zeroOrGreaterInteger (.str s) = .none ∨ ∃ k, 0 ≤ k ∧ zeroOrGreaterInteger (.str s) = .int k := by
  unfold zeroOrGreaterInteger
  rcases integer_str s with none | ⟨k, whole⟩
  · simp [none, Value.equals]
  · by_cases neg : k < 0
    · simp [whole, Value.equals, less_int_zero, neg]
    · exact .inr ⟨k, by omega, by simp [whole, Value.equals, less_int_zero, neg]⟩

end Fields

namespace Api

/-! ### Safe clauses -/

/-- Text of decimal digits only, at least one. -/
def Decimal (s : String) : Prop := s ≠ "" ∧ ∀ c ∈ s.toList, c.isDigit

/-- A limit clause made of fixed words and decimal numbers only: `LIMIT` with a number or `ALL`,
then nothing or `OFFSET` with a number. -/
def SafeLimit (clause : String) : Prop :=
  ∃ size offset, clause = "LIMIT " ++ size ++ offset ∧ (size = "ALL" ∨ Decimal size) ∧
    (offset = "" ∨ ∃ m, Decimal m ∧ offset = " OFFSET " ++ m)

/-- What a page argument may hold: nothing, or a whole number of zero or more. -/
def PageValue (x : Value) : Prop := x = .none ∨ ∃ k, 0 ≤ k ∧ x = .int k

theorem decimal_display_int {k : Int} (nonneg : 0 ≤ k) : Decimal (Value.int k).display := by
  obtain ⟨n, rfl⟩ := Int.eq_ofNat_of_zero_le nonneg
  show Decimal (toString n)
  rw [Nat.toString_eq_repr]
  refine ⟨Nat.repr_ne_empty, fun c mem => ?_⟩
  rw [Nat.toList_repr] at mem
  exact Nat.isDigit_of_mem_toDigits (by decide) (by decide) mem

theorem SafeLimit.sized {size : String} (safe : size = "ALL" ∨ Decimal size) :
    SafeLimit ("LIMIT " ++ size) :=
  ⟨size, "", by simp, safe, .inl rfl⟩

theorem SafeLimit.offset {size m : String} (safe : size = "ALL" ∨ Decimal size) (start : Decimal m) :
    SafeLimit ("LIMIT " ++ size ++ " OFFSET " ++ m) :=
  ⟨size, " OFFSET " ++ m, by simp [String.append_assoc], safe, .inr ⟨m, start, rfl⟩⟩

/-- The page size alone decides the `LIMIT` part of the clause. -/
theorem limitClause_sized {per : Value} (hp : PageValue per) :
    ∃ size, (size = "ALL" ∨ Decimal size) ∧ ∀ start, limitClause per start =
      if start.truthy then "LIMIT " ++ size ++ " OFFSET " ++ start.display else "LIMIT " ++ size := by
  rcases hp with rfl | ⟨k, nonneg, rfl⟩
  · exact ⟨"100", .inr ⟨by simp, by simp⟩, fun _ => rfl⟩
  · by_cases zero : k = 0
    · have empty : (Value.int k).truthy = false := by simp [Value.truthy, zero]
      exact ⟨"ALL", .inl rfl, fun _ => by simp only [limitClause, empty]; rfl⟩
    · have given : (Value.int k).truthy = true := by simp [Value.truthy, zero]
      exact ⟨_, .inr (decimal_display_int nonneg), fun _ => by simp only [limitClause, given]; rfl⟩

/-- From a page size and a first row that are each none or a whole number of zero or more, the
clause is safe. -/
theorem limitClause_safe {per start : Value} (hp : PageValue per) (hs : PageValue start) :
    SafeLimit (limitClause per start) := by
  obtain ⟨size, safe, sized⟩ := limitClause_sized hp
  rw [sized]
  rcases hs with rfl | ⟨m, nonneg, rfl⟩
  · exact SafeLimit.sized safe
  · by_cases zero : m = 0
    · simpa [Value.truthy, zero] using SafeLimit.sized safe
    · simpa [Value.truthy, zero] using SafeLimit.offset safe (decimal_display_int nonneg)

/-! ### The paged endpoints over the web -/

theorem Field.mem_setIn_self (fs : List Field) (f : Field) : f ∈ Field.setIn fs f := by
  unfold Field.setIn
  split
  · rename_i found
    obtain ⟨g, mem, same⟩ := List.any_eq_true.mp found
    exact List.mem_map.mpr ⟨g, mem, by simp [same]⟩
  · simp

theorem Field.mem_setIn_of_ne {fs : List Field} {f g : Field} (mem : g ∈ fs) (other : g.name ≠ f.name) :
    g ∈ Field.setIn fs f := by
  unfold Field.setIn
  split
  · exact List.mem_map.mpr ⟨g, mem, by simp [other]⟩
  · exact List.mem_append_left _ mem

/-- Setting a field keeps the names of the fields apart. -/
theorem Field.setIn_names_nodup {fs : List Field} (distinct : (fs.map (·.name)).Nodup) (f : Field) :
    ((Field.setIn fs f).map (·.name)).Nodup := by
  unfold Field.setIn
  split
  · -- the field replaces one of its own name, so the names are those of before
    have same : (fs.map fun g => if g.name == f.name then f else g).map (·.name) = fs.map (·.name) := by
      rw [List.map_map]
      refine List.map_congr_left fun g _ => ?_
      by_cases named : g.name = f.name <;> simp [named]
    rw [same]
    exact distinct
  · rename_i absent
    rw [List.map_append, List.nodup_append]
    refine ⟨distinct, by simp, fun a mem b last same => ?_⟩
    obtain ⟨g, held, rfl⟩ := List.mem_map.mp mem
    simp only [List.map_cons, List.map_nil, List.mem_singleton] at last
    exact absent (List.any_eq_true.mpr ⟨g, held, by simp [same, last]⟩)

/-- The paging fields read both page arguments as whole numbers of zero or more. -/
theorem pagingFields_reads_pages (fs : List Field) :
    accepts "per_page" .zeroOrGreaterInteger ∈ pagingFields fs ∧
      accepts "page_start" .zeroOrGreaterInteger ∈ pagingFields fs :=
  ⟨Field.mem_setIn_of_ne (Field.mem_setIn_self _ _) (by decide), Field.mem_setIn_self _ _⟩

theorem pagingFields_names_nodup {fs : List Field} (distinct : (fs.map (·.name)).Nodup) :
    ((pagingFields fs).map (·.name)).Nodup :=
  Field.setIn_names_nodup (Field.setIn_names_nodup distinct _) _

/-- The set-up step adds a paged endpoint's table to the written ones, and changes nothing else. -/
theorem Endpoint.setUp_run (e : Endpoint) (w : World) :
    e.setUp.run w = .ok () (if e.pagination = true ∧ e.table ∉ w.globals.pagedFieldTables then
      { w with globals := { w.globals with
        pagedFieldTables := w.globals.pagedFieldTables ++ [e.table] } } else w) := by
  unfold Endpoint.setUp
  by_cases written : e.table ∈ w.globals.pagedFieldTables <;> cases e.pagination <;>
    simp [written]

theorem Endpoint.setUp_run_ok {e : Endpoint} (paged : e.pagination = true) {w w' : World}
    (run : e.setUp.run w = .ok () w') :
    w'.store = w.store ∧ e.table ∈ w'.globals.pagedFieldTables := by
  rw [Endpoint.setUp_run, EStateM.Result.ok.injEq] at run
  obtain ⟨-, rfl⟩ := run
  by_cases written : e.table ∈ w.globals.pagedFieldTables
  · simp [written]
  · simp [paged, written]

theorem Endpoint.seen_run (e : Endpoint) (w : World) :
    e.seen.run w = .ok (e.seenWith w.globals.pagedFieldTables) w := rfl

theorem Endpoint.seenWith_written {e : Endpoint} {paged : List String} (written : e.table ∈ paged) :
    (e.seenWith paged).fields = pagingFields e.fields := by
  simp [Endpoint.seenWith, written]

theorem Endpoint.seenWith_unwritten {e : Endpoint} {paged : List String}
    (unwritten : e.table ∉ paged) : e.seenWith paged = e := by
  simp [Endpoint.seenWith, unwritten]

/-- Arguments as a request over the web carries them: each name with the non-empty list of texts
given for it. -/
def WebArguments (args : Dict) : Prop :=
  ∀ entry ∈ args, ∃ texts : List String, texts ≠ [] ∧ entry.2 = .list (texts.map .str)

/-- A value given as text: a text, as a websocket message gives it, or a non-empty list of texts,
as a request over the web does. -/
def TextValue (a : Value) : Prop :=
  (∃ t, a = .str t) ∨ ∃ texts : List String, texts ≠ [] ∧ a = .list (texts.map .str)

/-- Arguments given as text, over the web or in a message. -/
def TextArguments (args : Dict) : Prop := ∀ entry ∈ args, TextValue entry.2

theorem WebArguments.text {args : Dict} (web : WebArguments args) : TextArguments args :=
  fun entry mem => .inr (web entry mem)

theorem TextArguments.lookup {args : Dict} (texts : TextArguments args) {k a : Value}
    (found : Dict.lookup? args k = some a) : TextValue a := by
  simp only [Dict.lookup?, Option.map_eq_some_iff] at found
  obtain ⟨entry, first, rfl⟩ := found
  exact texts entry (List.mem_of_find?_eq_some first)

/-- A value given as text is read as a text: over the web the last one given. -/
theorem readGiven_text_run {a : Value} (given : TextValue a) (w : World) :
    ∃ t, (readGiven a).run w = .ok (.str t) w := by
  rcases given with ⟨t, rfl⟩ | ⟨texts, given, rfl⟩
  · exact ⟨t, rfl⟩
  obtain ⟨t, last⟩ : ∃ t, texts.getLast? = some t := Option.ne_none_iff_exists'.mp (by simpa using given)
  exact ⟨Value.strip t, by simp [readGiven, List.getLast?_map, last]⟩

/-- Probing a page argument given as text finds nothing or a whole number of zero or more. -/
theorem Field.probe_pageValue {f : Field} (kind : f.kind = .zeroOrGreaterInteger) {v : Value}
    {args : Dict} (texts : TextArguments args) {w w' : World} {o : Option Value}
    (run : (f.probe v args).run w = .ok o w') : PageValue (o.getD .none) := by
  unfold Field.probe at run
  split at run
  · obtain ⟨rfl, -⟩ := run_pure_eq_ok run
    exact .inl rfl
  · rename_i a found
    obtain ⟨t, read⟩ := readGiven_text_run (texts.lookup found) w
    obtain ⟨x, w1, readRun, rest⟩ := run_bind_eq_ok run
    rw [read] at readRun
    cases readRun
    obtain ⟨y, w2, checked, returned⟩ := run_bind_eq_ok rest
    rw [kind] at checked
    obtain ⟨rfl, -⟩ := run_pure_eq_ok checked
    obtain ⟨rfl, -⟩ := run_pure_eq_ok returned
    exact Fields.zeroOrGreaterInteger_str t

/-! ### Asking for the page arguments -/

section Asking

variable {w : World} {hv r : Nat} {args c : Dict}

/-- Asking for an argument neither recorded nor given gives none. -/
theorem Reading.argument_run_absent (reading : Reading w.store hv r args c) {name : String}
    (fresh : Dict.field? c name = none) (absent : Dict.lookup? args (.str name) = none) :
    (argument (.ref hv) name).run w = .ok .none w := by
  obtain ⟨h, found, -, -, checked⟩ := reading.handlerAt_run
  have missing : Dict.hasKey args (.str name) = false := by simp [Dict.hasKey, absent]
  simp [argument, argumentOr, handlerOf, EStateM.run_bind, found, checked, fresh,
    reading.givenArguments_run, isIn, Value.contains, Value.requireHashable, missing]

/-- After reading, a page argument the endpoint reads holds a page value. -/
theorem Reading.recorded_pageValue {fs : List Field} {w' : World} (reading : Reading w.store hv r args [])
    (distinct : (fs.map (·.name)).Nodup) (texts : TextArguments args)
    (run : (readFields (.ref hv) fs).run w = .ok () w') :
    ∃ c', Reading w'.store hv r args c' ∧ ∀ name, accepts name .zeroOrGreaterInteger ∈ fs →
      ∃ x, Dict.field? c' name = some x ∧ PageValue x := by
  obtain ⟨c', reading', -, recorded⟩ := reading.readFields_run_ok distinct (fun _ _ => rfl) run
  refine ⟨c', reading', fun name mem => ?_⟩
  obtain ⟨_, _, _, o, _, _, _, probed, holds⟩ := recorded _ mem
  exact ⟨_, holds, Field.probe_pageValue rfl texts probed⟩

end Asking

/-- Once the paging fields are written into an endpoint's table, reading its arguments given as
text (over the web, or in a later websocket message) and asking for the clause gives a safe
clause. -/
theorem pageLimit_once_written {w w' : World} {hv r : Nat} {args : Dict}
    (reading : Reading w.store hv r args []) {e : Endpoint}
    (written : e.table ∈ w.globals.pagedFieldTables) (distinct : (e.fields.map (·.name)).Nodup)
    (texts : TextArguments args) (run : (do readArguments (← e.seen) (.ref hv)).run w = .ok () w') :
    ∃ clause, (pageLimit (.ref hv)).run w' = .ok clause w' ∧ SafeLimit clause := by
  rw [run_bind_ok (Endpoint.seen_run e w)] at run
  have seenFields := Endpoint.seenWith_written written
  obtain ⟨c', reading', holds⟩ := reading.recorded_pageValue
    (by rw [seenFields]; exact pagingFields_names_nodup distinct) texts run
  obtain ⟨perField, startField⟩ := pagingFields_reads_pages e.fields
  obtain ⟨per, perHeld, perPage⟩ := holds "per_page" (seenFields ▸ perField)
  obtain ⟨start, startHeld, startPage⟩ := holds "page_start" (seenFields ▸ startField)
  refine ⟨limitClause per start, ?_, limitClause_safe perPage startPage⟩
  rw [pageLimit, EStateM.run_bind, reading'.argument_run_recorded perHeld]
  dsimp only
  rw [EStateM.run_bind, reading'.argument_run_recorded startHeld]
  rfl

/-- The limit clause, asked for once the arguments are read. Over the web, where the set-up step
runs first, a paged endpoint (whose own fields have distinct names) gives a clause of fixed words
and decimal numbers. An endpoint that declares neither page argument, whose table no set-up step
has written, read from a message that gives `per_page` as a non-empty text and no `page_start`,
gives `LIMIT` followed by that text as it is. -/
theorem pageLimit_after_reading {w w' : World} {hv r : Nat} {args : Dict}
    (reading : Reading w.store hv r args []) :
    (∀ e : Endpoint, e.pagination = true → (e.fields.map (·.name)).Nodup → WebArguments args →
      (do e.setUp; readArguments (← e.seen) (.ref hv)).run w = .ok () w' →
      ∃ clause, (pageLimit (.ref hv)).run w' = .ok clause w' ∧ SafeLimit clause) ∧
    (∀ e : Endpoint, (∀ f ∈ e.fields, f.name ≠ "per_page" ∧ f.name ≠ "page_start") →
      (e.fields.map (·.name)).Nodup → e.table ∉ w.globals.pagedFieldTables →
      (do readArguments (← e.seen) (.ref hv)).run w = .ok () w' →
      ∀ t, t ≠ "" → Dict.lookup? args (.str "per_page") = some (.str t) →
        Dict.lookup? args (.str "page_start") = none →
        (pageLimit (.ref hv)).run w' = .ok ("LIMIT " ++ t) w') := by
  refine ⟨fun e paged distinct web run => ?_,
    fun e undeclared distinct unwritten run t given sent unsent => ?_⟩
  · obtain ⟨_, w1, setUp, rest⟩ := run_bind_eq_ok run
    obtain ⟨sameStore, written⟩ := Endpoint.setUp_run_ok paged setUp
    exact pageLimit_once_written (sameStore ▸ reading) written distinct web.text rest
  · rw [run_bind_ok (Endpoint.seen_run e w), Endpoint.seenWith_unwritten unwritten] at run
    obtain ⟨c', reading', kept, -⟩ := reading.readFields_run_ok distinct (fun _ _ => rfl) run
    -- neither name is among the endpoint's fields, so neither is recorded
    have unrecorded : ∀ name, (name = "per_page" ∨ name = "page_start") → Dict.field? c' name = none := by
      intro name named
      refine (kept name fun mem => ?_).trans rfl
      obtain ⟨f, held, rfl⟩ := List.mem_map.mp mem
      rcases named with same | same
      · exact (undeclared f held).1 same
      · exact (undeclared f held).2 same
    rw [pageLimit, EStateM.run_bind, reading'.argument_run_given (unrecorded _ (.inl rfl)) sent]
    dsimp only [readGiven, EStateM.run_pure]
    rw [EStateM.run_bind, reading'.argument_run_absent (unrecorded _ (.inr rfl)) unsent]
    simp [limitClause, Value.truthy, Value.display, given]

/-- A handler under 0 serving a web request under 1 for the page of five rows from row ten. -/
def webPage : World :=
  { store := #[.handler { route := "/api4/tip_jar", request := .ref 1 },
      .record "HTTPServerRequest" [("arguments", .dict [(.str "per_page", .list [.str "5"]),
        (.str "page_start", .list [.str "10"])])]] }

/-- A handler under 0 serving a websocket message under 1 whose page size is a statement. -/
def injectedPage : World :=
  { store := #[.handler { route := "/api4/tip_jar", request := .ref 1 },
      .record "FakeRequestObject" [("arguments", .dict [(.str "per_page",
        .str "1; DELETE FROM r4_donations")])]] }

/-- Over the web the tip jar asks for `LIMIT 5 OFFSET 10`, a safe clause; from a websocket
message in a process where no set-up step ran, the statement given as the page size goes into
its query. -/
theorem tipJar_pages_web_and_message :
    (∃ w' clause,
      (do Reports.tipJar.setUp; readArguments (← Reports.tipJar.seen) (.ref 0)).run webPage =
        .ok () w' ∧
      (pageLimit (.ref 0)).run w' = .ok clause w' ∧ SafeLimit clause) ∧
    (do readArguments (← Reports.tipJar.seen) (.ref 0)).run injectedPage = .ok () injectedPage ∧
      (pageLimit (.ref 0)).run injectedPage = .ok "LIMIT 1; DELETE FROM r4_donations" injectedPage := by
  have web : Reading webPage.store 0 1
      [(.str "per_page", .list [.str "5"]), (.str "page_start", .list [.str "10"])] [] :=
    ⟨by decide, ⟨_, rfl, rfl, rfl⟩, ⟨_, rfl, rfl⟩⟩
  have message : Reading injectedPage.store 0 1
      [(.str "per_page", .str "1; DELETE FROM r4_donations")] [] :=
    ⟨by decide, ⟨_, rfl, rfl, rfl⟩, ⟨_, rfl, rfl⟩⟩
  obtain ⟨w', webRead⟩ : ∃ w',
      (do Reports.tipJar.setUp; readArguments (← Reports.tipJar.seen) (.ref 0)).run webPage =
        .ok () w' :=
    ⟨_, run_eq_ok_of_succeeds (by decide +kernel)⟩
  have messageRead :
      (do readArguments (← Reports.tipJar.seen) (.ref 0)).run injectedPage = .ok () injectedPage :=
    rfl
  have texts : WebArguments
      [(.str "per_page", .list [.str "5"]), (.str "page_start", .list [.str "10"])] := by
    intro entry mem
    simp only [List.mem_cons, List.not_mem_nil, or_false] at mem
    rcases mem with rfl | rfl
    · exact ⟨["5"], by simp, rfl⟩
    · exact ⟨["10"], by simp, rfl⟩
  obtain ⟨clause, asked, safe⟩ :=
    (pageLimit_after_reading web).1 Reports.tipJar rfl (by decide) texts webRead
  exact ⟨⟨w', clause, webRead, asked, safe⟩, messageRead,
    (pageLimit_after_reading message).2 Reports.tipJar (fun _ => nofun) (by decide) (by decide)
      messageRead _ (by decide) rfl rfl⟩

end Api

end Airwaves
