import Airwaves.Proofs.ElectionOrder
import Airwaves.Api.Admin.Stats
/-!
# The station tables of the configuration

Listener statistics replace the station ids by one to five; a configuration loaded over another
only adds to the tables of names, hosts and mounts.
-/

namespace Airwaves

/-! ### Actions that keep the configuration -/

theorem query_keeps_config (k : QueryKind) (params : List Value) :
    Keeps (fun u => u.config) (query k params) := by
  intro w r w' run
  rw [Cache.query_run] at run
  cases run
  rfl

theorem store_keeps_config (h : Nat) (o : Obj) : Keeps (fun u => u.config) (store h o) := by
  intro w r w' run
  rw [store_run] at run
  cases run
  rfl

namespace Api

theorem handlerAt_readOnly (v : Value) : ReadOnly (handlerAt v) := by
  unfold handlerAt
  split
  · refine (deref_readOnly _).bind fun o => ?_
    split
    · exact .pure _
    · exact noMember_readOnly _ _
  · exact noMember_readOnly _ _

theorem handlerOf_readOnly (v : Value) : ReadOnly (handlerOf v) :=
  (handlerAt_readOnly v).bind fun _ => .pure _

theorem answerName_readOnly (v : Value) : ReadOnly (answerName v) :=
  (handlerOf_readOnly v).bind fun _ => .pure _

theorem putEntry_readOnly (d key x : Value) : ReadOnly (putEntry d key x) := by
  unfold putEntry
  split
  · exact .pure _
  · exact .raise _

theorem changeHandler_keeps_config (v : Value) (f : Handler → Handler) :
    Keeps (fun u => u.config) (changeHandler v f) :=
  (Keeps.of_readOnly (handlerAt_readOnly v)).bind fun _ => store_keeps_config _ _

/-- Adding a part to the answer writes the handler and nothing of the configuration. -/
theorem append_keeps_config (v key x : Value) : Keeps (fun u => u.config) (append v key x) := by
  unfold append
  repeat' first
    | with_reducible refine Keeps.bind ?_ fun _ => ?_
    | split
    | exact Keeps.of_readOnly (.pure _)
    | exact Keeps.of_readOnly (handlerOf_readOnly _)
    | exact Keeps.of_readOnly (putEntry_readOnly _ _ _)
    | exact Keeps.of_readOnly (noMember_readOnly _ _)
    | exact Keeps.of_readOnly (Listeners.isIn_readOnly _ _)
    | exact Keeps.of_readOnly (itemOf_readOnly _ _)
    | exact changeHandler_keeps_config _ _

/-- The station check of a handler serving a whole-number station: it passes for station zero
where the endpoint allows it and for a station the configuration lists, and refuses any other. -/
theorem checkStation_run {w : World} {hv : Nat} {h : Handler} {n : Int}
    (held : w.store[hv]? = some (.handler h)) (serving : h.sid = .int n) (e : Endpoint) :
    (checkStation e (.ref hv)).run w =
      if (n = 0 ∧ e.gates.stationZero = true) ∨ w.config.stationIds.any (Value.equals · (.int n))
      then .ok () w else .error (refuse "invalid_station_id" 400) w := by
  have handler : (handlerOf (.ref hv)).run w = .ok h w := by
    simp [handlerOf, handlerAt, EStateM.run_bind, Ratings.deref_run_of held]
  have listedRun : Config.stationIdList.run w = .ok w.config.stationIds w := rfl
  unfold checkStation
  -- the handler names a station, so no default is looked up
  rw [run_bind_ok handler]
  simp only [serving, Bool.false_eq_true, ↓reduceIte]
  rw [run_bind_ok handler]
  simp only [serving]
  by_cases zero : n = 0 ∧ e.gates.stationZero = true
  · obtain ⟨rfl, allowed⟩ := zero
    simp [Value.equals, allowed]
  · have passes : (Value.equals (.int n) (.int 0) && e.gates.stationZero) = false := by
      simpa [Value.equals] using zero
    simp only [passes, Bool.false_eq_true, ↓reduceIte]
    rw [run_bind_ok listedRun]
    cases w.config.stationIds.any (Value.equals · (.int n)) <;> simp [zero]

end Api

namespace Api.Stats

theorem slotMoment_readOnly (x : Value) : ReadOnly (slotMoment x) := by
  unfold slotMoment
  split
  · exact .pure _
  · exact .pure _
  · exact .raise _

/-- Reading the counts leaves stations one to five as the station ids: it sets them first, and
nothing after that touches the configuration. -/
theorem countsBy_stationIds {v start stop : Value} {write : Instant → String} {w w' : World}
    (run : (countsBy v start stop write).run w = .ok () w') :
    w'.config.stationIds = statStations := by
  unfold countsBy at run
  obtain ⟨⟨⟩, w1, changed, rest⟩ := run_bind_eq_ok run
  have set : w1.config.stationIds = statStations := by
    cases changed
    rfl
  have same : w'.config = w1.config := (?kept : Keeps (fun u => u.config) _) w1 () w' rest
  · rw [same, set]
  case kept =>
    repeat' first
      | with_reducible refine Keeps.bind ?_ fun _ => ?_
      | with_reducible refine Keeps.forIn _ _ fun _ _ => ?_
      | split
      | exact Keeps.of_readOnly (.pure _)
      | exact Keeps.of_readOnly (itemsOf_readOnly _)
      | exact Keeps.of_readOnly (itemOf_readOnly _ _)
      | exact Keeps.of_readOnly (slotMoment_readOnly _)
      | exact Keeps.of_readOnly (answerName_readOnly _)
      | exact query_keeps_config _ _
      | exact append_keeps_config _ _ _

/-- A successful listener-statistics request, of either grouping, leaves stations one to five
as the station ids. -/
theorem serve_sets_stations {e : Endpoint} (stats : e = listenerStats ∨ e = listenerStatsByHour)
    {v : Value} {w w' : World} {r : Unit} (run : (e.serve v).run w = .ok r w') :
    w'.config.stationIds = statStations := by
  rcases stats with rfl | rfl
  · obtain ⟨⟨start, stop⟩, w1, -, run⟩ := run_bind_eq_ok run
    obtain ⟨late, w2, -, run⟩ := run_bind_eq_ok run
    dsimp only at run
    -- a range that ends before it starts is refused
    split at run
    · obtain ⟨_, _, refused, -⟩ := run_bind_eq_ok run
      cases refused
    obtain ⟨span, w4, -, run⟩ := run_bind_eq_ok run
    obtain ⟨short, w5, -, run⟩ := run_bind_eq_ok run
    split at run <;> exact countsBy_stationIds run
  · obtain ⟨⟨start, stop⟩, w1, -, run⟩ := run_bind_eq_ok run
    exact countsBy_stationIds run

/-- Reading listener statistics sets the station ids to stations one to five, whatever the
configuration declares; from then on the station check of a handler admits exactly station
zero where the endpoint allows it and stations one to five. -/
theorem countsBy_opens_stations {v start stop : Value} {write : Instant → String} {w w' : World}
    (run : (countsBy v start stop write).run w = .ok () w') :
    w'.config.stationIds = statStations ∧
      ∀ (e : Endpoint) (hv : Nat) (h : Handler) (n : Int), w'.store[hv]? = some (.handler h) →
        h.sid = .int n →
        (checkStation e (.ref hv)).run w' =
          if (n = 0 ∧ e.gates.stationZero = true) ∨ (1 ≤ n ∧ n ≤ 5) then .ok () w'
          else .error (refuse "invalid_station_id" 400) w' := by
  have stations := countsBy_stationIds run
  refine ⟨stations, fun e hv h n held serving => ?_⟩
  have configured : w'.config.stationIds.any (Value.equals · (.int n)) = true ↔ 1 ≤ n ∧ n ≤ 5 := by
    rw [stations]
    simp only [statStations, List.any_cons, List.any_nil, Value.equals, Bool.or_false,
      Bool.or_eq_true, beq_iff_eq]
    omega
  rw [checkStation_run held serving e]
  simp only [configured]

/-- A handler under 0 whose answer is a mapping, on a configuration of station 1 alone. -/
def statsDesk : World where
  store := #[.handler { route := "/api4/admin/listener_stats", output := .dict [] }]
  config := { stationIds := [.int 1] }

theorem statsDesk_admits_station_three :
    ∃ w', (countsBy (.ref 0) (.int 0) (.int 1) hourText).run statsDesk = .ok () w' ∧
      w'.config.stationIds = statStations ∧
      ∀ (e : Endpoint) (hv : Nat) (h : Handler) (n : Int), w'.store[hv]? = some (.handler h) →
        h.sid = .int n →
        (checkStation e (.ref hv)).run w' =
          if (n = 0 ∧ e.gates.stationZero = true) ∨ (1 ≤ n ∧ n ≤ 5) then .ok () w'
          else .error (refuse "invalid_station_id" 400) w' := by
  -- the kernel runs the five stations' reads
  have run := run_eq_ok_of_succeeds (x := countsBy (.ref 0) (.int 0) (.int 1) hourText)
    (w := statsDesk) (by decide +kernel)
  exact ⟨_, run, countsBy_opens_stations run⟩

end Api.Stats

/-! ### What loading a configuration adds to -/

theorem Dict.hasKey_put_of_hasKey {d : Dict} {k k' x : Value} (has : Dict.hasKey d k' = true) :
    Dict.hasKey (Dict.put d k x) k' = true := by
  unfold Dict.hasKey Dict.lookup? at has ⊢
  rw [Option.isSome_map, List.find?_isSome] at has ⊢
  obtain ⟨e, mem, same⟩ := has
  unfold Dict.put
  split
  · exact ⟨_, List.mem_map_of_mem mem, by split <;> exact same⟩
  · exact ⟨e, List.mem_append_left _ mem, same⟩

namespace Config

/-- The tables that loading a configuration adds to rather than rebuilds: the friendly station
names, the host names, the relay texts, the mount file names and the mounts. -/
inductive Table where
  | friendly
  | hostnames
  | relaysJson
  | mountFilenames
  | mounts
  deriving DecidableEq

/-- A table of a configuration. -/
def Table.of : Table → Config → Value
  | .friendly, c => c.stationIdFriendly
  | .hostnames, c => c.stationHostnames
  | .relaysJson, c => c.publicRelaysJson
  | .mountFilenames, c => c.stationMountFilenames
  | .mounts, c => c.stationMounts

/-- A mapping that has the key. -/
def Keyed (t k : Value) : Prop := ∃ d, t = .dict d ∧ Dict.hasKey d k = true

/-- Whether a value is a mapping that has the key. -/
def keyedB : Value → Value → Bool
  | .dict d, k => Dict.hasKey d k
  | _, _ => false

theorem keyed_iff (t k : Value) : Keyed t k ↔ keyedB t k = true := by
  cases t <;> simp [Keyed, keyedB]

instance (t k : Value) : Decidable (Keyed t k) := decidable_of_iff _ (keyed_iff t k).symm

/-- Every key of each added table of the first configuration is a key of the second's. -/
def KeysKept (c c' : Config) : Prop := ∀ (t : Table) (k : Value), Keyed (t.of c) k → Keyed (t.of c') k

theorem KeysKept.trans {c c' c'' : Config} (first : KeysKept c c') (second : KeysKept c' c'') :
    KeysKept c c'' :=
  fun t k keyed => second t k (first t k keyed)

/-- A change of the configuration that keeps the keys of the added tables keeps every key an
earlier configuration had. -/
theorem change_keysKept {c0 : Config} {f : Config → Config} (grows : ∀ c, KeysKept c (f c)) :
    Preserves (fun u => KeysKept c0 u.config) (change f) := by
  intro w r w' kept run
  cases run
  exact kept.trans (grows w.config)

theorem current_readOnly : ReadOnly current := ReadOnly.get.bind fun _ => .pure _

theorem require_readOnly (key : Value) : ReadOnly (require key) := by
  unfold require has
  refine (current_readOnly.bind fun _ => .pure _).bind fun present => ?_
  split
  · exact .pure _
  · exact .raise _

theorem stationIdList_readOnly : ReadOnly stationIdList := current_readOnly.bind fun _ => .pure _

theorem stationGet_readOnly (sid : Value) (key : String) : ReadOnly (stationGet sid key) := by
  unfold stationGet station stations
  repeat' first
    | split
    | with_reducible exact ReadOnly.pure _
    | with_reducible exact ReadOnly.raise _
    | with_reducible exact current_readOnly
    | with_reducible apply ReadOnly.bind
    | intro _

theorem walk_readOnly (v : Value) : ReadOnly (walk v) := by
  unfold walk
  split <;> first | exact .pure _ | exact .raise _

theorem entriesOf_readOnly (v : Value) (method : String) : ReadOnly (entriesOf v method) := by
  unfold entriesOf
  split
  · exact .pure _
  · exact .raise _

theorem stationBlocks_readOnly (opts : Dict) : ReadOnly (stationBlocks opts) := by
  unfold stationBlocks
  split
  · exact .pure _
  · exact .raise _

theorem jsonText_readOnly (v : Value) (st : Json.Style) : ReadOnly (jsonText v st) := by
  unfold jsonText
  split
  · exact .pure _
  · exact .raise _

/-- Collecting the station ids only puts friendly names into their table. -/
theorem setStationIds_keysKept (c0 : Config) (dirs friendly : Value) :
    Preserves (fun u => KeysKept c0 u.config) (setStationIds dirs friendly) := by
  unfold setStationIds
  dsimp only
  repeat' first
    | with_reducible refine Preserves.bind ?_ fun _ => ?_
    | with_reducible refine Preserves.forIn _ _ fun _ _ => ?_
    | with_reducible exact Preserves.of_readOnly (.pure _)
    | with_reducible exact Preserves.of_readOnly (.raise _)
    | with_reducible exact Preserves.of_readOnly (.lift _)
    | with_reducible exact Preserves.of_readOnly (walk_readOnly _)
    | with_reducible exact Preserves.of_readOnly (entriesOf_readOnly _ _)
    | exact change_keysKept fun c t k keyed => by
        obtain ⟨d, eq, has⟩ := keyed
        cases t <;> simp only [Table.of] at eq ⊢ <;>
          first
            | exact ⟨d, eq, has⟩
            | (rw [eq]; exact ⟨_, rfl, Dict.hasKey_put_of_hasKey has⟩)
    | split

/-- A document of one station, station 1, fed by one music directory, with no relays. -/
def oneStation (host stream name : String) : Value :=
  .dict [(.str "stations", .dict [(.str "1", .dict [(.str "host", .str host),
      (.str "stream_filename", .str stream), (.str "round_robin_relay_host", .str "r.example.com"),
      (.str "round_robin_relay_port", .str "8000")])]),
    (.str "song_dirs", .dict [(.str "/m", .list [.int 1])]),
    (.str "station_id_friendly", .dict [(.str "1", .str name)]),
    (.str "test_mode", .bool true), (.str "relays", .dict [])]

end Config

end Airwaves
