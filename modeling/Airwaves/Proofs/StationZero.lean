import Airwaves.Proofs.ArgumentReading
import Airwaves.Proofs.ConnectionOpening
import Airwaves.Api.Admin.Blocks
/-!
# Station zero in a station argument

The reader of a station argument answers none for zero before its branch for station zero, so
an endpoint allowing station zero refuses it like any other.
-/

namespace Airwaves

namespace Fields

/-- A true value equal to zero can only be a double. -/
theorem equals_zero_of_truthy {n : Value} (notDouble : ∀ x, n ≠ .float x) (truthy : n.truthy = true) :
    Value.equals n (.int 0) = false := by
  cases n <;> simp_all [Value.truthy, Value.equals]

theorem integer_not_double {v : Value} (notDouble : ∀ x, v ≠ .float x) :
    ∀ x, integer v ≠ .float x := by
  intro x same
  unfold integer at same
  split at same
  · exact notDouble x same
  · repeat' split at same
    all_goals cases same

theorem zeroOrGreaterInteger_not_double {v : Value} (notDouble : ∀ x, v ≠ .float x) :
    ∀ x, zeroOrGreaterInteger v ≠ .float x := by
  intro x same
  unfold zeroOrGreaterInteger at same
  dsimp only at same
  split at same
  · cases same
  · split at same
    · cases same
    · exact integer_not_double notDouble x same

theorem station_run_falsy {v : Value} (falsy : (zeroOrGreaterInteger v).truthy = false)
    (request : Value) (w : World) : (station v request).run w = .ok .none w := by
  simp [station, falsy]

open Live in
/-- Any other argument that is not a double is a station exactly when it is configured: what the
request says about station zero is read and never changes the outcome. -/
theorem station_run_configured {v request : Value} {w : World} (notDouble : ∀ x, v ≠ .float x)
    (allowance : request.truthy → ∃ flag, (requestField request "allow_sid_zero").run w = .ok flag w) :
    (station v request).run w =
      .ok (if (zeroOrGreaterInteger v).truthy && w.config.stationIds.any (Value.equals · (zeroOrGreaterInteger v))
        then zeroOrGreaterInteger v else .none) w := by
  cases truthy : (zeroOrGreaterInteger v).truthy
  case false => simpa using station_run_falsy truthy request w
  case true =>
    have nonzero := equals_zero_of_truthy (zeroOrGreaterInteger_not_double notDouble) truthy
    unfold station
    cases asked : request.truthy
    case false =>
      simp [truthy, stationIdList_run]
      split <;> rfl
    case true =>
      obtain ⟨flag, read⟩ := allowance asked
      simp [truthy, read, nonzero, stationIdList_run]
      split <;> rfl

end Fields

namespace Api

/-- A station argument given a value that reads as no true number is found to be none. -/
theorem Field.probe_station_falsy {f : Field} (kind : f.kind = .station) {args : Dict} {a : Value}
    (given : Dict.lookup? args (.str f.name) = some a) (plain : ∀ xs, a ≠ .list xs)
    (falsy : (Fields.zeroOrGreaterInteger a).truthy = false) (v : Value) (w : World) :
    (f.probe v args).run w = .ok (some .none) w := by
  have taken : readGiven a = pure a := by
    cases a <;> first | exact absurd rfl (plain _) | rfl
  simp [Field.probe, given, taken, kind, Fields.FieldKind.check, run_map, Fields.station_run_falsy falsy]

/-- Reading an endpoint's arguments never runs through when a station argument that is not lenient
is given a value that reads as no true number. -/
theorem Reading.readArguments_station_falsy {e : Endpoint} {w : World} {hv r : Nat} {args : Dict}
    (reading : Reading w.store hv r args []) (distinct : (e.fields.map (·.name)).Nodup)
    {f : Field} (mem : f ∈ e.fields) (kind : f.kind = .station) (strict : f.need ≠ .lenient)
    {a : Value} (given : Dict.lookup? args (.str f.name) = some a) (plain : ∀ xs, a ≠ .list xs)
    (falsy : (Fields.zeroOrGreaterInteger a).truthy = false) (w' : World) :
    (readArguments e (.ref hv)).run w ≠ .ok () w' := by
  intro run
  obtain ⟨pre, post, split⟩ := List.append_of_mem mem
  rw [readArguments, readFields, split, List.forM_eq_forM, List.forM_append, List.forM_cons] at run
  obtain ⟨_, w1, ran, rest⟩ := run_bind_eq_ok run
  obtain ⟨_, w2, read, -⟩ := run_bind_eq_ok rest
  obtain ⟨c1, reading1, fresh⟩ := reading.readFields_prefix (split ▸ distinct) (fun _ _ => rfl) ran
  obtain ⟨o, w3, probed, passed, -⟩ := reading1.readArgument_run_ok fresh read
  rw [Field.probe_station_falsy kind given plain falsy] at probed
  cases probed
  -- the argument was found to be none and is not lenient, so the verdict refuses it
  rw [(Field.verdict_eq_error_iff f _ f.invalid).mpr (.inr ⟨rfl, strict, rfl⟩)] at passed
  cases passed

/-- What a station argument gives: none for an argument that reads as no true number (zero
among them), whatever the request allows; for any other argument that is not a double, the
number when it is a configured station and none otherwise, the request's allowance of station
zero being read and ignored. So the endpoints that allow station zero still refuse a station
argument of zero: reading their arguments never runs through. -/
theorem stationArgument_refuses_zero (v request : Value) (w : World) :
    ((Fields.zeroOrGreaterInteger v).truthy = false → (Fields.station v request).run w = .ok .none w) ∧
    ((∀ x, v ≠ .float x) →
      (request.truthy → ∃ flag, (Fields.requestField request "allow_sid_zero").run w = .ok flag w) →
      (Fields.station v request).run w =
        .ok (if (Fields.zeroOrGreaterInteger v).truthy &&
            w.config.stationIds.any (Value.equals · (Fields.zeroOrGreaterInteger v))
          then Fields.zeroOrGreaterInteger v else .none) w) ∧
    ∀ e ∈ [Blocks.addSongToPowerHour, Blocks.addAlbumToPowerHour, Blocks.addToDjElection],
      e.gates.stationZero = true ∧ ∀ f ∈ e.fields, f.kind = .station →
        ∀ hv r args, Reading w.store hv r args [] → Dict.lookup? args (.str f.name) = some v →
          (∀ xs, v ≠ .list xs) → (Fields.zeroOrGreaterInteger v).truthy = false →
          ∀ w', (readArguments e (.ref hv)).run w ≠ .ok () w' := by
  refine ⟨fun falsy => Fields.station_run_falsy falsy request w,
    fun notDouble allowance => Fields.station_run_configured notDouble allowance, fun e listed => ?_⟩
  -- each of the three allows station zero, names its arguments apart and needs its station
  have facts : e.gates.stationZero = true ∧ (e.fields.map (·.name)).Nodup ∧
      ∀ f ∈ e.fields, f.kind = .station → f.need ≠ .lenient := by
    simp only [List.mem_cons, List.not_mem_nil, or_false] at listed
    rcases listed with rfl | rfl | rfl <;> decide
  refine ⟨facts.1, fun f mem kind hv r args reading given plain falsy w' => ?_⟩
  exact reading.readArguments_station_falsy facts.2.1 mem kind (facts.2.2 f mem kind) given plain falsy w'

/-- A handler under 0 adding a song to a power hour for a request under 1 that gives station
zero and nothing else. -/
def zeroSongStation : World :=
  { store := #[.handler { route := "/api4/admin/add_song_to_power_hour", request := .ref 1 },
      .record "FakeRequestObject" [("arguments", .dict [(.str "song_sid", .str "0")])]] }

theorem zeroSongStation_refused :
    (Fields.station (.str "0") (.ref 0)).run zeroSongStation = .ok .none zeroSongStation ∧
      ∀ w', (readArguments Blocks.addSongToPowerHour (.ref 0)).run zeroSongStation ≠ .ok () w' := by
  have zero : (Fields.zeroOrGreaterInteger (.str "0")).truthy = false := rfl
  have reading : Reading zeroSongStation.store 0 1 [(.str "song_sid", .str "0")] [] :=
    ⟨by decide, ⟨_, rfl, rfl, rfl⟩, ⟨_, rfl, rfl⟩⟩
  obtain ⟨falsy, -, endpoints⟩ := stationArgument_refuses_zero (.str "0") (.ref 0) zeroSongStation
  exact ⟨falsy zero, (endpoints _ (by simp)).2 (needs "song_sid" .station) (by simp [Blocks.addSongToPowerHour])
    rfl 0 1 _ reading rfl (fun _ listed => by cases listed) zero⟩

end Api
end Airwaves
