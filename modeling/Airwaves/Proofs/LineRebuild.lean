import Airwaves.Proofs.ArgumentReading
import Airwaves.Proofs.RatingWindow
import Airwaves.Proofs.ListenerIndex
import Airwaves.Proofs.ElectionRecord
/-!
# Rebuilding a station's request line

Given what the database answers of each listener, the rebuilt line, its places and its count of
valid places are functions of the waiting rows (`Answer.place`, `placeAll`).
-/

namespace Airwaves.Requests

/-! ### Rows -/

theorem setField_record (row : Value) (key : String) (x : Value) : ∃ d, setField row key x = .dict d := by
  unfold setField withField
  split
  · exact ⟨_, rfl⟩
  · exact ⟨_, rfl⟩

/-- Setting a column changes that column and no other; anything that is not a mapping becomes
a mapping of the one column. -/
theorem field?_setField (row : Value) (key other : String) (x : Value) :
    (setField row key x).field? other = if key = other then some x else row.field? other := by
  by_cases mapping : ∃ d, row = .dict d
  · obtain ⟨d, rfl⟩ := mapping
    exact Api.field?_putField d key other x
  · have fresh : setField row key x = .dict [(.str key, x)] := by
      unfold setField withField
      split
      · exact absurd ⟨_, rfl⟩ mapping
      · rfl
    have columns : row.field? other = none := by
      unfold Value.field? Value.entries?
      split
      · exact absurd ⟨_, rfl⟩ mapping
      · rfl
    rw [fresh, columns]
    by_cases same : key = other
    · simp [same, Value.field?, Value.entries?, Dict.field?, Dict.lookup?_cons, Value.equals]
    · simp [same, Value.field?, Value.entries?, Dict.field?, Dict.lookup?_cons, Dict.lookup?_nil,
        Value.equals]

theorem field_setField (row : Value) (key other : String) (x : Value) :
    (setField row key x).field other = if key = other then x else row.field other := by
  unfold Value.field
  rw [field?_setField]
  split <;> rfl

/-- Reading a column of a mapping finds the column's value. -/
theorem col_field {row x : Value} {key : String} {w w' : World} (record : ∃ d, row = .dict d)
    (run : (col row key).run w = .ok x w') : w' = w ∧ row.field? key = some x := by
  obtain ⟨d, rfl⟩ := record
  simp only [col, itemOf] at run
  split at run
  · rename_i found
    obtain ⟨rfl, rfl⟩ := run_pure_eq_ok run
    exact ⟨rfl, found⟩
  · cases run

theorem col_value {row x : Value} {key : String} {w w' : World} (record : ∃ d, row = .dict d)
    (run : (col row key).run w = .ok x w') : x = row.field key := by
  simp [Value.field, (col_field record run).2]

/-! ### Deadlines -/

/-- A deadline has passed at a moment when it is set and not after that moment. -/
def passedAt (deadline : Value) (now : Int) : Bool :=
  deadline.truthy && Value.lessEq deadline (.int now)

theorem hasPassed_run (deadline : Value) (now : Int) (w : World) :
    (hasPassed deadline (.int now)).run w = .ok (passedAt deadline now) w := by
  unfold hasPassed passedAt isAtMost
  cases deadline.truthy <;> rfl

theorem plus_int_run (a b : Int) (w : World) : (plus (.int a) (.int b)).run w = .ok (.int (a + b)) w :=
  rfl

/-! ### What the database answers -/

/-- What the database answers about one listener in line: whether the listener is tuned in to
the station, and the listener's first request that can be played there now, with its album and
its row. -/
structure Answer where
  tunedIn : Bool
  song : Value
  album : Value
  songRow : Value

/-- A row marked as having had a valid request when a request can be played now. -/
def noteRow (songId row : Value) : Value :=
  if songId.truthy && !(row.field "line_has_had_valid").truthy then
    setField row "line_has_had_valid" (.bool true) else row

theorem noteRow_record {songId row : Value} (record : ∃ d, row = .dict d) :
    ∃ d, noteRow songId row = .dict d := by
  unfold noteRow
  split
  · exact setField_record _ _ _
  · exact record

theorem noteRow_of_not_truthy {songId : Value} (row : Value) (none : songId.truthy = false) :
    noteRow songId row = row := by
  simp [noteRow, none]

/-- A row has had a valid request once noted when a request can be played now or it had one. -/
theorem truthy_noteRow_had (songId row : Value) :
    ((noteRow songId row).field "line_has_had_valid").truthy =
      (songId.truthy || (row.field "line_has_had_valid").truthy) := by
  unfold noteRow
  split
  · rename_i marks
    simp only [Bool.and_eq_true, Bool.not_eq_true'] at marks
    rw [field_setField, if_pos rfl, marks.1]
    rfl
  · rename_i keeps
    simp only [Bool.and_eq_true, Bool.not_eq_true', not_and, Bool.not_eq_false] at keeps
    cases song : songId.truthy <;> simp_all

theorem field?_noteRow_other (songId row : Value) {key : String} (other : key ≠ "line_has_had_valid") :
    (noteRow songId row).field? key = row.field? key := by
  unfold noteRow
  split
  · rw [field?_setField, if_neg (Ne.symm other)]
  · rfl

theorem field_noteRow_other (songId row : Value) {key : String} (other : key ≠ "line_has_had_valid") :
    (noteRow songId row).field key = row.field key := by
  simp only [Value.field, field?_noteRow_other songId row other]

namespace Answer

variable (a : Answer) (now : Int)

/-- The listener is asked for a request: still within the time to tune in, and tuned in. -/
def asked (row : Value) : Bool :=
  !passedAt (row.field "line_expiry_tune_in") now && a.tunedIn

/-- The listener leaves the line: the time to tune in ran out, or the listener was asked, has no
request to play and the election countdown ran out. -/
def removed (row : Value) : Bool :=
  passedAt (row.field "line_expiry_tune_in") now ||
    (a.asked now row && !a.song.truthy && passedAt (row.field "line_expiry_election") now)

/-- The listener holds a valid place: asked, with a request to play now or earlier. -/
def valid (row : Value) : Bool :=
  a.asked now row && (a.song.truthy || (row.field "line_has_had_valid").truthy)

/-- The listener's request is played from the line: asked, with a request to play now. -/
def serves (row : Value) : Bool := a.asked now row && a.song.truthy

/-- The row of an asked listener after the check: the request that can be played is noted and
named with its song; without one the countdown starts at one of the first two kept places, and
the row is left as it is once the countdown ran out. -/
def checkedRow (keptPlace : Nat) (row : Value) : Value :=
  let row := noteRow a.song row
  if a.song.truthy then setField (setField row "song" a.songRow) "song_id" a.song
  else if passedAt (row.field "line_expiry_election") now then row
  else if !(row.field "line_expiry_election").truthy && keptPlace ≤ 2 then
    setField row "line_expiry_election" (.int (now + 900))
  else setField (setField row "song" .none) "song_id" a.song

/-- The entry a row becomes in the line, at its kept and its shown place. -/
def entry (keptPlace shownPlace : Nat) (row : Value) : Value :=
  let base := setField row "song_id" .none
  let body := if a.asked now row then a.checkedRow now keptPlace base else base
  setField (setField body "skip" (.bool (a.removed now row))) "position" (.int shownPlace)

/-- Places one row in the line being rebuilt. -/
def place (acc : Rebuild) (row : Value) : Rebuild where
  line := acc.line ++ [a.entry now acc.keptPlace acc.shownPlace row]
  places := Dict.put acc.places (row.field "user_id") (.int acc.shownPlace)
  pendingAlbums := if a.serves now row then acc.pendingAlbums ++ [a.album] else acc.pendingAlbums
  keptPlace := if a.removed now row then acc.keptPlace else acc.keptPlace + 1
  shownPlace := acc.shownPlace + 1
  validPlaces := if a.valid now row then acc.validPlaces + 1 else acc.validPlaces

/-- The decisions about a row read its deadlines and whether it had a valid request, not its
song. -/
theorem decisions_setField_songId (row x : Value) :
    a.asked now (setField row "song_id" x) = a.asked now row ∧
      a.removed now (setField row "song_id" x) = a.removed now row ∧
      a.valid now (setField row "song_id" x) = a.valid now row ∧
      a.serves now (setField row "song_id" x) = a.serves now row := by
  simp [asked, removed, valid, serves, field_setField]

end Answer

/-! ### The entries of the line -/

namespace Answer

variable (a : Answer) (now : Int)

theorem field_position_entry (keptPlace shownPlace : Nat) (row : Value) :
    (a.entry now keptPlace shownPlace row).field "position" = .int shownPlace := by
  simp [entry, field_setField]

theorem field_skip_entry (keptPlace shownPlace : Nat) (row : Value) :
    (a.entry now keptPlace shownPlace row).field "skip" = .bool (a.removed now row) := by
  simp [entry, field_setField]

theorem field?_skip_entry (keptPlace shownPlace : Nat) (row : Value) :
    (a.entry now keptPlace shownPlace row).field? "skip" = some (.bool (a.removed now row)) := by
  simp [entry, field?_setField]

/-- Every entry names a song, none when its listener has no request to play. -/
theorem field?_songId_entry (keptPlace shownPlace : Nat) (row : Value) :
    ∃ songId, (a.entry now keptPlace shownPlace row).field? "song_id" = some songId := by
  simp only [entry, checkedRow, field?_setField, String.reduceEq, ↓reduceIte]
  split_ifs <;> simp [field?_setField, field?_noteRow_other]

/-- An asked listener's row names a song exactly when a request can be played now. -/
theorem truthy_songId_checkedRow (keptPlace : Nat) {row : Value}
    (cleared : (row.field "song_id").truthy = false) :
    ((a.checkedRow now keptPlace row).field "song_id").truthy = a.song.truthy := by
  unfold checkedRow
  by_cases playable : a.song.truthy
  · simp [playable, field_setField]
  · simp only [Bool.not_eq_true] at playable
    simp only [playable, Bool.false_eq_true, ↓reduceIte]
    split_ifs <;> simp [field_setField, field_noteRow_other, cleared, playable]

/-- An entry names a song exactly when its listener keeps the place, is tuned in and has a
request that can be played now. -/
theorem truthy_songId_entry (keptPlace shownPlace : Nat) (row : Value) :
    ((a.entry now keptPlace shownPlace row).field "song_id").truthy =
      (!a.removed now row && a.tunedIn && a.song.truthy) := by
  have cleared : ((setField row "song_id" .none).field "song_id").truthy = false := by
    simp [field_setField, Value.truthy]
  simp only [entry, field_setField]
  simp only [String.reduceEq, ↓reduceIte]
  split
  · rename_i asked
    rw [a.truthy_songId_checkedRow now keptPlace cleared]
    simp only [Answer.asked, Bool.and_eq_true, Bool.not_eq_true'] at asked
    cases playable : a.song.truthy <;> simp [removed, Answer.asked, asked.1, asked.2, playable]
  · rename_i unasked
    simp only [Answer.asked, Bool.and_eq_true, Bool.not_eq_true', not_and] at unasked
    rw [cleared]
    cases tunedIn : a.tunedIn <;> simp_all [removed]

/-- An entry keeps every column of its row that the line does not write. -/
theorem field?_entry_other (keptPlace shownPlace : Nat) (row : Value) {key : String}
    (other : key ∉ ["song_id", "skip", "position", "song", "line_has_had_valid", "line_expiry_election"]) :
    (a.entry now keptPlace shownPlace row).field? key = row.field? key := by
  simp only [List.mem_cons, List.not_mem_nil, or_false, not_or] at other
  obtain ⟨songId, skip, position, song, had, election⟩ := other
  simp only [entry, checkedRow, field?_setField, Ne.symm skip, Ne.symm position, ↓reduceIte]
  split_ifs <;>
    simp [field?_setField, field?_noteRow_other _ _ had, Ne.symm songId, Ne.symm song,
      Ne.symm election]

end Answer

/-- Places rows, each with what the database answered about it, one after another. -/
def placeAll (now : Int) (acc : Rebuild) (rows : List (Value × Answer)) : Rebuild :=
  rows.foldl (fun acc p => p.2.place now acc p.1) acc

/-! ### One row -/

section Steps

variable {w w' : World}

/-- A listener created from an id and read back carries that id. -/
theorem create_userOf_id {w1 w2 : World} {id user : Value} {u : User}
    (created : (Listeners.create id).run w = .ok user w1) (found : (Listeners.userOf user).run w1 = .ok u w2) :
    u.id = id := by
  rw [Listeners.create, Elections.allocRef_run] at created
  obtain ⟨rfl, rfl⟩ := EStateM.Result.ok.inj created
  obtain ⟨-, stored⟩ := Listeners.userOf_result found
  simp [Listeners.userIn] at stored
  rw [← stored]

theorem noteValid_result {u : User} {row songId r : Value} (record : ∃ d, row = .dict d)
    (run : (noteValid u row songId).run w = .ok r w') : r = noteRow songId row := by
  unfold noteValid at run
  obtain ⟨had, w1, read, run⟩ := run_bind_eq_ok run
  unfold noteRow
  rw [col_value record read] at run
  split at run
  · rename_i marks
    obtain ⟨_, w2, -, run⟩ := run_bind_eq_ok run
    obtain ⟨rfl, -⟩ := run_pure_eq_ok run
    rw [if_pos marks]
  · rename_i keeps
    obtain ⟨rfl, -⟩ := run_pure_eq_ok run
    rw [if_neg keeps]

theorem withSong_result {row songId : Value} {acc : Rebuild} {r : Value × Bool × Rebuild}
    (run : (withSong row songId acc).run w = .ok r w') :
    ∃ album song, r = (setField (setField row "song" song) "song_id" songId, true,
      { acc with pendingAlbums := acc.pendingAlbums ++ [album] }) := by
  unfold withSong at run
  obtain ⟨album, w1, -, run⟩ := run_bind_eq_ok run
  obtain ⟨song, w2, -, run⟩ := run_bind_eq_ok run
  obtain ⟨rfl, -⟩ := run_pure_eq_ok run
  exact ⟨album, song, rfl⟩

theorem withoutSong_result {user row songId : Value} {now : Int} {acc : Rebuild}
    {r : Value × Bool × Rebuild} (record : ∃ d, row = .dict d)
    (run : (withoutSong user row songId (.int now) acc).run w = .ok r w') :
    r = if passedAt (row.field "line_expiry_election") now then (row, false, acc)
      else if !(row.field "line_expiry_election").truthy && acc.keptPlace ≤ 2 then
        (setField row "line_expiry_election" (.int (now + 900)), true, acc)
      else (setField (setField row "song" .none) "song_id" songId, true, acc) := by
  unfold withoutSong at run
  obtain ⟨expiry, w1, read, run⟩ := run_bind_eq_ok run
  rw [col_value record read, run_bind_ok (hasPassed_run _ _ _)] at run
  split at run
  · rename_i passed
    -- leaving the line, and joining another one, change the database only
    obtain ⟨_, w2, -, run⟩ := run_bind_eq_ok run
    obtain ⟨count, w3, -, run⟩ := run_bind_eq_ok run
    have left : r = (row, false, acc) := by
      dsimp only at run
      split at run
      · obtain ⟨_, w4, -, run⟩ := run_bind_eq_ok run
        obtain ⟨_, w5, -, run⟩ := run_bind_eq_ok run
        exact (run_pure_eq_ok run).1
      · exact (run_pure_eq_ok run).1
    rw [left, if_pos passed]
  · rename_i waiting
    rw [if_neg waiting]
    split at run
    · rename_i starts
      rw [run_bind_ok (plus_int_run _ _ _)] at run
      obtain ⟨_, w2, -, run⟩ := run_bind_eq_ok run
      obtain ⟨_, w3, -, run⟩ := run_bind_eq_ok run
      rw [(run_pure_eq_ok run).1, if_pos starts]
    · rename_i waits
      rw [(run_pure_eq_ok run).1, if_neg waits]

theorem checkTunedIn_answers {user row sid : Value} {now : Int} {acc : Rebuild}
    {r : Value × Bool × Rebuild} (record : ∃ d, row = .dict d)
    (run : (checkTunedIn user row sid (.int now) acc).run w = .ok r w') :
    ∃ a : Answer, a.tunedIn = true ∧
      r = (a.checkedRow now acc.keptPlace row,
        !(!a.song.truthy && passedAt (row.field "line_expiry_election") now),
        { acc with
          pendingAlbums := if a.song.truthy then acc.pendingAlbums ++ [a.album] else acc.pendingAlbums
          validPlaces := if a.song.truthy || (row.field "line_has_had_valid").truthy then
            acc.validPlaces + 1 else acc.validPlaces }) := by
  unfold checkTunedIn at run
  obtain ⟨u, w1, -, run⟩ := run_bind_eq_ok run
  obtain ⟨song, w2, -, run⟩ := run_bind_eq_ok run
  obtain ⟨noted, w3, noting, run⟩ := run_bind_eq_ok run
  rw [noteValid_result record noting] at run
  obtain ⟨had, w4, read, run⟩ := run_bind_eq_ok run
  rw [col_value (noteRow_record record) read, truthy_noteRow_had] at run
  dsimp only at run
  split at run
  · rename_i playable
    obtain ⟨album, songRow, rfl⟩ := withSong_result run
    refine ⟨⟨true, song, album, songRow⟩, rfl, ?_⟩
    simp [Answer.checkedRow, playable]
  · rename_i none
    simp only [Bool.not_eq_true] at none
    have result := withoutSong_result (noteRow_record record) run
    rw [noteRow_of_not_truthy row none] at result
    refine ⟨⟨true, song, .none, .none⟩, rfl, ?_⟩
    rw [result]
    simp only [Answer.checkedRow, noteRow_of_not_truthy row none, none, Bool.false_or]
    -- the count of valid places does not decide where the countdown starts
    cases had : (row.field "line_has_had_valid").truthy <;>
      by_cases passed : passedAt (row.field "line_expiry_election") now <;> simp [passed] <;>
      split_ifs <;> rfl

theorem checkRow_answers {user row sid : Value} {now : Int} {u : User} {acc : Rebuild}
    {r : Value × Bool × Rebuild} (record : ∃ d, row = .dict d)
    (run : (checkRow user row sid (.int now) u acc).run w = .ok r w') :
    ∃ a : Answer, r = (if a.asked now row then a.checkedRow now acc.keptPlace row else row,
      !a.removed now row,
      { acc with
        pendingAlbums := if a.serves now row then acc.pendingAlbums ++ [a.album] else acc.pendingAlbums
        validPlaces := if a.valid now row then acc.validPlaces + 1 else acc.validPlaces }) := by
  unfold checkRow at run
  obtain ⟨expiry, w1, read, run⟩ := run_bind_eq_ok run
  rw [col_value record read, run_bind_ok (hasPassed_run _ _ _)] at run
  split at run
  · rename_i passed
    -- the time to tune in ran out: the listener leaves, and nothing else is asked
    obtain ⟨_, w2, -, run⟩ := run_bind_eq_ok run
    obtain ⟨rfl, -⟩ := run_pure_eq_ok run
    refine ⟨⟨false, .none, .none, .none⟩, ?_⟩
    simp [Answer.asked, Answer.removed, Answer.valid, Answer.serves, passed]
  · rename_i waiting
    obtain ⟨tuned, w2, -, run⟩ := run_bind_eq_ok run
    split at run
    · obtain ⟨a, tunedIn, rfl⟩ := checkTunedIn_answers record run
      refine ⟨a, ?_⟩
      simp [Answer.asked, Answer.removed, Answer.valid, Answer.serves, waiting, tunedIn]
    · -- not tuned in: the listener waits, and only the database learns of it
      obtain ⟨_, w3, -, run⟩ := run_bind_eq_ok run
      obtain ⟨rfl, -⟩ := run_pure_eq_ok run
      refine ⟨⟨false, .none, .none, .none⟩, ?_⟩
      simp [Answer.asked, Answer.removed, Answer.valid, Answer.serves, waiting]

/-- Placing one row is `Answer.place` for what the database answered about its listener. -/
theorem placeRow_answers {sid row : Value} {now : Int} {acc acc' : Rebuild}
    (record : ∃ d, row = .dict d) (run : (placeRow sid (.int now) acc row).run w = .ok acc' w') :
    ∃ a : Answer, acc' = a.place now acc row := by
  unfold placeRow at run
  obtain ⟨id, w1, read, run⟩ := run_bind_eq_ok run
  obtain ⟨user, w2, created, run⟩ := run_bind_eq_ok run
  obtain ⟨u, w3, found, run⟩ := run_bind_eq_ok run
  have named : u.id = row.field "user_id" :=
    (create_userOf_id created found).trans (col_value record read)
  obtain ⟨⟨body, kept, acc1⟩, w4, checked, run⟩ := run_bind_eq_ok run
  obtain ⟨a, outcome⟩ := checkRow_answers (setField_record row "song_id" .none) checked
  obtain ⟨rfl, -⟩ := run_pure_eq_ok run
  -- the check saw the row with its song cleared, which decides as the row itself does
  obtain ⟨asked, removed, valid, serves⟩ := a.decisions_setField_songId now row .none
  simp only [Prod.mk.injEq, asked, removed, valid, serves] at outcome
  obtain ⟨rfl, rfl, rfl⟩ := outcome
  refine ⟨a, ?_⟩
  simp only [Answer.place, Answer.entry, named, Bool.not_not]
  cases a.removed now row <;> rfl

end Steps

/-! ### The rebuilt line -/

/-- The shown line for rows and what the database answered about them: every row once, in
order, numbered from one; marked to be skipped exactly when its listener leaves the line; naming
a song exactly when its listener keeps the place, is tuned in and has a request that can be
played now; and with every other column of its row. -/
structure ShownLine (now : Int) (rows : List (Value × Answer)) (shown : List Value) : Prop where
  length : shown.length = rows.length
  position : ∀ i (h : i < shown.length), shown[i].field "position" = .int (i + 1)
  skip : ∀ i (h : i < shown.length) (h' : i < rows.length),
    shown[i].field "skip" = .bool (rows[i].2.removed now rows[i].1)
  songId : ∀ i (h : i < shown.length) (h' : i < rows.length),
    (shown[i].field "song_id").truthy =
      (!rows[i].2.removed now rows[i].1 && rows[i].2.tunedIn && rows[i].2.song.truthy)
  columns : ∀ i (h : i < shown.length) (h' : i < rows.length) (key : String),
    key ∉ ["song_id", "skip", "position", "song", "line_has_had_valid", "line_expiry_election"] →
      shown[i].field? key = rows[i].1.field? key

/-- The listeners' places, when every listener is named by a whole number: a listener is at the
place of the listener's last row, numbered from one. -/
def Placed (rows : List (Value × Answer)) (places : Dict) : Prop :=
  (∀ p ∈ rows, ∃ m : Int, p.1.field "user_id" = .int m) →
    ∀ i (h : i < rows.length) (m : Int), rows[i].1.field "user_id" = .int m →
      (∀ j (h' : j < rows.length), i < j → rows[j].1.field "user_id" ≠ .int m) →
      Dict.lookup? places (.int m) = some (.int (i + 1))

theorem placeAll_cons (now : Int) (acc : Rebuild) (p : Value × Answer) (rows : List (Value × Answer)) :
    placeAll now acc (p :: rows) = placeAll now (p.2.place now acc p.1) rows := rfl

/-- The count of valid places grows by the rows whose listener holds a valid place. -/
theorem placeAll_validPlaces (now : Int) (rows : List (Value × Answer)) : ∀ acc : Rebuild,
    (placeAll now acc rows).validPlaces = acc.validPlaces + rows.countP fun p => p.2.valid now p.1 := by
  induction rows with
  | nil => intro acc; rfl
  | cons p rows ih =>
    intro acc
    rw [placeAll_cons, ih, List.countP_cons]
    cases valid : p.2.valid now p.1 <;> simp [Answer.place, valid]
    omega

/-- The line grows by one entry per row, at the shown places that follow. -/
theorem placeAll_line (now : Int) (rows : List (Value × Answer)) : ∀ acc : Rebuild,
    ∃ entries : List Value, (placeAll now acc rows).line = acc.line ++ entries ∧
      entries.length = rows.length ∧
      ∀ i (h : i < entries.length) (h' : i < rows.length),
        ∃ keptPlace, entries[i] = rows[i].2.entry now keptPlace (acc.shownPlace + i) rows[i].1 := by
  induction rows with
  | nil => intro acc; exact ⟨[], by simp [placeAll], rfl, fun i h => absurd h (Nat.not_lt_zero i)⟩
  | cons p rows ih =>
    intro acc
    obtain ⟨entries, line, length, entryAt⟩ := ih (p.2.place now acc p.1)
    refine ⟨p.2.entry now acc.keptPlace acc.shownPlace p.1 :: entries, ?_, by simp [length], ?_⟩
    · rw [placeAll_cons, line]
      simp [Answer.place]
    · intro i h h'
      cases i with
      | zero => exact ⟨acc.keptPlace, by simp⟩
      | succ k =>
        obtain ⟨keptPlace, found⟩ := entryAt k (by simpa using h) (by simpa using h')
        -- the rest is shown from the place after this row's
        have shown : (p.2.place now acc p.1).shownPlace + k = acc.shownPlace + (k + 1) := by
          simp only [Answer.place]
          omega
        exact ⟨keptPlace, by simpa [shown] using found⟩

theorem shownLine_placeAll (now : Int) (rows : List (Value × Answer)) :
    ShownLine now rows (placeAll now {} rows).line := by
  obtain ⟨entries, line, length, entryAt⟩ := placeAll_line now rows {}
  have start : ({} : Rebuild).line = [] := rfl
  rw [line, start, List.nil_append]
  refine ⟨length, fun i h => ?_, fun i h h' => ?_, fun i h h' => ?_, fun i h h' key other => ?_⟩
  · obtain ⟨keptPlace, found⟩ := entryAt i h (length ▸ h)
    rw [found, Answer.field_position_entry]
    simp only [Value.int.injEq]
    have first : ({} : Rebuild).shownPlace = 1 := rfl
    omega
  · obtain ⟨keptPlace, found⟩ := entryAt i h h'
    rw [found, Answer.field_skip_entry]
  · obtain ⟨keptPlace, found⟩ := entryAt i h h'
    rw [found, Answer.truthy_songId_entry]
  · obtain ⟨keptPlace, found⟩ := entryAt i h h'
    rw [found, Answer.field?_entry_other _ _ _ _ _ other]

/-- Placing rows none of whose listeners is `m` leaves the place of `m` as it was. -/
theorem lookup?_placeAll_absent (now : Int) {m : Int} (rows : List (Value × Answer)) :
    ∀ acc : Rebuild, Live.IntKeyed acc.places →
      (∀ p ∈ rows, ∃ n : Int, p.1.field "user_id" = .int n ∧ n ≠ m) →
      Dict.lookup? (placeAll now acc rows).places (.int m) = Dict.lookup? acc.places (.int m) := by
  induction rows with
  | nil => intro acc _ _; rfl
  | cons p rows ih =>
    intro acc keyed others
    obtain ⟨n, named, other⟩ := others p List.mem_cons_self
    have placed : (p.2.place now acc p.1).places = Dict.put acc.places (.int n) (.int acc.shownPlace) := by
      simp [Answer.place, named]
    have keyed' : Live.IntKeyed (p.2.place now acc p.1).places := by
      rw [placed]
      exact Live.intKeyed_put keyed n _
    rw [placeAll_cons, ih _ keyed' fun q mem => others q (List.mem_cons_of_mem _ mem), placed,
      Live.lookup?_put_int keyed, if_neg other]

/-- A listener named by a whole number is at the place of the listener's last row. -/
theorem lookup?_placeAll_last (now : Int) {m : Int} (rows : List (Value × Answer)) :
    ∀ acc : Rebuild, Live.IntKeyed acc.places → (∀ p ∈ rows, ∃ n : Int, p.1.field "user_id" = .int n) →
      ∀ i (h : i < rows.length), rows[i].1.field "user_id" = .int m →
        (∀ j (h' : j < rows.length), i < j → rows[j].1.field "user_id" ≠ .int m) →
        Dict.lookup? (placeAll now acc rows).places (.int m) = some (.int (acc.shownPlace + i)) := by
  induction rows with
  | nil => intro acc _ _ i h; exact absurd h (Nat.not_lt_zero i)
  | cons p rows ih =>
    intro acc keyed named i h mine last
    obtain ⟨n, hn⟩ := named p List.mem_cons_self
    have placed : (p.2.place now acc p.1).places = Dict.put acc.places (.int n) (.int acc.shownPlace) := by
      simp [Answer.place, hn]
    have keyed' : Live.IntKeyed (p.2.place now acc p.1).places := by
      rw [placed]
      exact Live.intKeyed_put keyed n _
    rw [placeAll_cons]
    cases i with
    | zero =>
      have same : n = m := by simpa [hn] using mine
      subst same
      -- this row is the listener's last, so no later row moves the place
      have later : ∀ q ∈ rows, ∃ n' : Int, q.1.field "user_id" = .int n' ∧ n' ≠ n := by
        intro q mem
        obtain ⟨k, hk, rfl⟩ := List.mem_iff_getElem.mp mem
        obtain ⟨n', hn'⟩ := named _ (List.mem_cons_of_mem _ mem)
        refine ⟨n', hn', ?_⟩
        rintro rfl
        exact last (k + 1) (by simpa using hk) (by omega) (by simpa using hn')
      rw [lookup?_placeAll_absent now rows _ keyed' later, placed, Live.lookup?_put_int keyed, if_pos rfl]
      simp
    | succ k =>
      have moved := ih _ keyed' (fun q mem => named q (List.mem_cons_of_mem _ mem)) k
        (by simpa using h) (by simpa using mine)
        (fun j hj lt => last (j + 1) (by simpa using hj) (by omega))
      rw [moved]
      simp only [Answer.place, Option.some.injEq, Value.int.injEq]
      omega

theorem placed_placeAll (now : Int) (rows : List (Value × Answer)) : Placed rows (placeAll now {} rows).places := by
  intro named i h m mine last
  have empty : Live.IntKeyed ({} : Rebuild).places := fun e mem => absurd mem List.not_mem_nil
  rw [lookup?_placeAll_last now rows {} empty named i h mine last]
  simp only [Option.some.injEq, Value.int.injEq]
  have first : ({} : Rebuild).shownPlace = 1 := rfl
  omega

/-! ### Rebuilding and reading the line -/

/-- A loop over rows whose every pass places its row, for what the database answered about its
listener, places all the rows. -/
theorem forIn_placeRow_answers {sid : Value} {now : Int} (rows : List Value) :
    ∀ (acc acc' : Rebuild) (w w' : World), (∀ row ∈ rows, ∃ d, row = .dict d) →
      (forIn rows acc fun row acc => do
          let acc ← placeRow sid (.int now) acc row
          pure (ForInStep.yield acc)).run w = .ok acc' w' →
      ∃ answers : List Answer, answers.length = rows.length ∧ acc' = placeAll now acc (rows.zip answers) := by
  induction rows with
  | nil =>
    intro acc acc' w w' _ run
    obtain ⟨rfl, -⟩ := run_pure_eq_ok run
    exact ⟨[], rfl, rfl⟩
  | cons row rows ih =>
    intro acc acc' w w' records run
    rw [List.forIn_cons] at run
    obtain ⟨step, w1, first, rest⟩ := run_bind_eq_ok run
    obtain ⟨placed, w2, placing, yielded⟩ := run_bind_eq_ok first
    obtain ⟨rfl, rfl⟩ := run_pure_eq_ok yielded
    obtain ⟨a, rfl⟩ := placeRow_answers (records row List.mem_cons_self) placing
    obtain ⟨answers, length, rfl⟩ :=
      ih _ acc' _ w' (fun x mem => records x (List.mem_cons_of_mem _ mem)) rest
    exact ⟨a :: answers, by simp [length], rfl⟩

theorem query_keeps_cache (k : QueryKind) (params : List Value) : Keeps (fun u => u.cache) (query k params) := by
  intro w r w' run
  rw [Cache.query_run] at run
  cases run
  rfl

/-- Station entries of names of different lengths are different entries. -/
theorem stationKey_ne (sid : Value) {a b : String} (lengths : a.length ≠ b.length) :
    Cache.stationKey sid a ≠ Cache.stationKey sid b := by
  intro same
  have sizes := congrArg String.length same
  simp only [Cache.stationKey, String.length_append] at sizes
  omega

/-- A read finds what the last write of an entry wrote, whether a local copy is kept or not. -/
theorem peek_store_same (c : Cache) (key : String) (v : Value) (keepLocal : Bool) :
    (c.store key v keepLocal).peek key = v := by
  cases keepLocal
  · by_cases held : Dict.hasKey c.localEntries (.str key) = true
    · simpa [Cache.store, held] using Cache.peek_store_self c key v
    · have absent : Dict.lookup? c.localEntries (.str key) = none := by
        simpa [Dict.hasKey] using held
      simp [Cache.store, Cache.peek, held, absent, Dict.putField, Dict.field?,
        Dict.lookup?_put_self _ _ (show Value.equals (.str key) (.str key) = true by simp [Value.equals])]
  · exact Cache.peek_store_self c key v

/-- An entry with its skip mark, its song and its listener's name is passed over when it is
marked to be skipped or names no song. -/
theorem passOver_run {entry skip songId : Value} (w : World) (record : ∃ d, entry = .dict d)
    (skipped : entry.field? "skip" = some skip) (named : entry.field? "song_id" = some songId)
    (user : (entry.field? "username").isSome) (passes : skip.truthy ∨ songId.truthy = false) :
    (passOver entry).run w = .ok true w := by
  obtain ⟨d, rfl⟩ := record
  obtain ⟨name, hname⟩ := Option.isSome_iff_exists.mp user
  have filled : (Value.dict d).truthy = true := by
    cases d with
    | nil => simp [Value.field?, Value.entries?, Dict.field?, Dict.lookup?_nil] at skipped
    | cons => rfl
  have marked : (isIn (.str "skip") (.dict d)).run w = .ok true w := by
    have found : Dict.lookup? d (.str "skip") = some skip := skipped
    have has : Dict.hasKey d (.str "skip") = true := by simp [Dict.hasKey, found]
    simp [isIn, Value.contains, Value.requireHashable, Act.lift, has]
  unfold passOver
  simp only [filled, Bool.not_true, Bool.false_eq_true, ↓reduceIte]
  rw [run_bind_ok marked]
  rw [if_pos rfl, run_bind_ok (col_dict_run skipped w)]
  by_cases shown : skip.truthy = true
  · rw [if_pos shown, run_bind_ok (col_dict_run hname w)]
    rfl
  · have none : songId.truthy = false := passes.resolve_left shown
    rw [if_neg shown, run_bind_ok (col_dict_run named w), none]
    simp only [Bool.not_false, ↓reduceIte]
    rw [run_bind_ok (col_dict_run hname w)]
    rfl

/-- An entry of the line is passed over when it is marked to be skipped or names no song, once its
listener's name is in its row. -/
theorem Answer.passOver_entry_run (a : Answer) (now : Int) (keptPlace shownPlace : Nat) {row : Value}
    (w : World) (user : (row.field? "username").isSome)
    (passes : ((a.entry now keptPlace shownPlace row).field "skip").truthy ∨
      ((a.entry now keptPlace shownPlace row).field "song_id").truthy = false) :
    (passOver (a.entry now keptPlace shownPlace row)).run w = .ok true w := by
  obtain ⟨songId, named⟩ := a.field?_songId_entry now keptPlace shownPlace row
  have skipped := a.field?_skip_entry now keptPlace shownPlace row
  have kept : (a.entry now keptPlace shownPlace row).field? "username" = row.field? "username" :=
    a.field?_entry_other now keptPlace shownPlace row (by simp)
  refine passOver_run w (setField_record _ _ _) skipped named (kept ▸ user) ?_
  simpa [Value.field, skipped, named] using passes

/-- A loop whose every pass over the items it walks goes on with nothing found, in the world it
started in, ends with nothing found in that world, and so does what follows it. -/
theorem forIn_nothing_found_bind {β γ : Type} {f : Value → Option Value × γ → Act (ForInStep (Option Value × γ))}
    {k : Option Value × γ → Act β} {w : World} {b : β} (xs : List Value)
    (pass : ∀ x ∈ xs, ∀ c, ∃ c', (f x (none, c)).run w = .ok (.yield (none, c')) w)
    (rest : ∀ c, (k (none, c)).run w = .ok b w) :
    ∀ c, ((forIn xs (none, c) f) >>= k).run w = .ok b w := by
  induction xs with
  | nil => intro c; exact rest c
  | cons x xs ih =>
    intro c
    obtain ⟨c', first⟩ := pass x List.mem_cons_self c
    rw [List.forIn_cons, bind_assoc, run_bind_ok first]
    exact ih (fun y mem => pass y (List.mem_cons_of_mem _ mem)) c'

/-- Taking the next request from a cached line whose every entry is passed over gives none and
changes nothing. -/
theorem nextRequest_of_passOver {sid : Value} {line : List Value} {w : World}
    (conn : w.cache.connected = true) (cached : w.cache.peek (Cache.stationKey sid "request_line") = .list line)
    (passes : ∀ e ∈ line, (passOver e).run w = .ok true w) :
    (nextRequest sid).run w = .ok .none w := by
  unfold nextRequest Cache.readStation
  rw [run_bind_ok (Cache.read_run _ conn), cached]
  cases line with
  | nil => rfl
  | cons e rest =>
    simp only [Value.truthy, List.isEmpty_cons, Bool.not_false, Bool.not_true, Bool.false_eq_true, ↓reduceIte]
    rw [run_bind_ok (itemsOf_list_run _ w)]
    refine forIn_nothing_found_bind _ (fun x mem c => ⟨c + 1, ?_⟩) (fun c => rfl) 0
    rw [run_bind_ok (passes x mem)]
    rfl

/-- Rebuilding a station's line at a moment from rows that are mappings: for what the database
answered about each listener, the line is the shown line of the rows; the cache holds that line,
the listeners' places and the count of listeners holding a valid place; and taking the next
request from the cached line, when every entry is marked to be skipped or names no song, gives
none and changes nothing. -/
theorem rebuildLine_caches {rows : List Value} {sid : Value} {now : Int} {w w' : World} {r : Value}
    (records : ∀ row ∈ rows, ∃ d, row = .dict d)
    (run : (rebuildLine (.list rows) sid (.int now)).run w = .ok r w') :
    ∃ answers : List Answer, answers.length = rows.length ∧
      let line := (placeAll now {} (rows.zip answers)).line
      r = .list line ∧ ShownLine now (rows.zip answers) line ∧
      w'.cache.peek (Cache.stationKey sid "request_line") = .list line ∧
      (∃ places, w'.cache.peek (Cache.stationKey sid "request_user_positions") = .dict places ∧
        Placed (rows.zip answers) places) ∧
      w'.cache.peek (Cache.stationKey sid "request_valid_positions") =
        .int ((rows.zip answers).countP fun p => p.2.valid now p.1) ∧
      ((∀ e ∈ line, (e.field "skip").truthy ∨ (e.field "song_id").truthy = false) →
        (∀ row ∈ rows, (row.field? "username").isSome) →
        (nextRequest sid).run w' = .ok .none w') := by
  unfold rebuildLine at run
  obtain ⟨items, w1, listed, run⟩ := run_bind_eq_ok run
  rw [itemsOf_list_run] at listed
  cases listed
  obtain ⟨acc, w2, looped, run⟩ := run_bind_eq_ok run
  obtain ⟨answers, length, rfl⟩ := forIn_placeRow_answers rows {} acc w w2 records looped
  refine ⟨answers, length, ?_⟩
  -- the three entries are written with a client connected, and nothing after touches the cache
  obtain ⟨_, w3, written, run⟩ := run_bind_eq_ok run
  have conn := Cache.put_connected written
  rw [Cache.putStation, Cache.put_run _ _ _ conn] at written
  cases written
  obtain ⟨_, w4, written, run⟩ := run_bind_eq_ok run
  rw [Cache.putStation, Cache.put_run _ _ _ (by simpa using conn)] at written
  cases written
  obtain ⟨_, w5, written, run⟩ := run_bind_eq_ok run
  rw [Cache.putStation, Cache.put_run _ _ _ (by simpa using conn)] at written
  cases written
  obtain ⟨_, w6, updated, run⟩ := run_bind_eq_ok run
  obtain ⟨_, w7, marked, run⟩ := run_bind_eq_ok run
  obtain ⟨rfl, rfl⟩ := run_pure_eq_ok run
  have albums : w'.cache = w6.cache :=
    (Keeps.forIn _ _ fun _ _ => (query_keeps_cache _ _).bind fun _ => Keeps.of_readOnly (.pure _))
      w6 _ w' marked
  have cached := albums.trans (query_keeps_cache _ _ _ _ _ updated)
  have connected : w'.cache.connected = true := by simpa [cached] using conn
  have validKey := stationKey_ne sid (a := "request_valid_positions") (b := "request_line") (by decide)
  have placesKey := stationKey_ne sid (a := "request_user_positions") (b := "request_line") (by decide)
  have countKey := stationKey_ne sid (a := "request_user_positions") (b := "request_valid_positions")
    (by decide)
  have lineCached : w'.cache.peek (Cache.stationKey sid "request_line") =
      .list (placeAll now {} (rows.zip answers)).line := by
    rw [cached, Cache.peek_store_other _ placesKey, Cache.peek_store_self]
  refine ⟨rfl, shownLine_placeAll now _, lineCached, ⟨_, ?_, placed_placeAll now _⟩, ?_, ?_⟩
  · rw [cached, Cache.peek_store_self]
  · rw [cached, Cache.peek_store_other _ countKey, Cache.peek_store_other _ validKey.symm,
      peek_store_same, placeAll_validPlaces]
    simp
  · intro passes named
    refine nextRequest_of_passOver connected lineCached fun e mem => ?_
    obtain ⟨entries, line, entriesLength, entryAt⟩ := placeAll_line now (rows.zip answers) {}
    have start : ({} : Rebuild).line = [] := rfl
    rw [line, start, List.nil_append] at mem passes
    have passing := passes e mem
    obtain ⟨i, h, rfl⟩ := List.getElem_of_mem mem
    have h' : i < (rows.zip answers).length := entriesLength ▸ h
    obtain ⟨keptPlace, found⟩ := entryAt i h h'
    have user := named _ (List.of_mem_zip (List.getElem_mem h')).1
    rw [found] at passing ⊢
    exact Answer.passOver_entry_run _ now keptPlace _ w' user passing

/-- An action that succeeds on a world returns in the world its run ends in. -/
theorem returns_in_worldAfter {α : Type} {x : Act α} {w : World}
    (ok : succeeds (x >>= fun _ => pure ()) w = true) :
    ∃ r, x.run w = .ok r (worldAfter (x >>= fun _ => pure ()) w) := by
  obtain ⟨a, w1, ran, rest⟩ := run_bind_eq_ok (run_eq_ok_of_succeeds ok)
  obtain ⟨-, rfl⟩ := run_pure_eq_ok rest
  exact ⟨a, ran⟩

/-- A listener in line, within the time to tune in, who has had a valid request and whose
election countdown ran out. -/
def countedDeparture : Value :=
  .dict (Dict.ofStrings [("line_expiry_election", .int 1499999000), ("line_expiry_tune_in", .none),
    ("line_has_had_valid", .bool true), ("line_wait_start", .int 1499999900), ("user_id", .int 2),
    ("username", .str "user2")])

/-- A station whose database answers that the listener is tuned in to it, has no request that
can be played and has no requests left. -/
def departureLine : World :=
  { db := { queues := { var := [.int 1, .none, .int 0] } }, rng := { words := #[], index := 0 } }

theorem departureLine_rebuilt :
    ∃ r w', (rebuildLine (.list [countedDeparture]) (.int 1) (.int 1500000000)).run departureLine =
        .ok r w' ∧
      ∃ answers : List Answer, answers.length = 1 ∧
        w'.cache.peek (Cache.stationKey (.int 1) "request_valid_positions") =
          .int (([countedDeparture].zip answers).countP fun p => p.2.valid 1500000000 p.1) := by
  obtain ⟨r, ran⟩ := returns_in_worldAfter
    (x := rebuildLine (.list [countedDeparture]) (.int 1) (.int 1500000000)) (w := departureLine)
    (by decide +kernel)
  obtain ⟨answers, length, -, -, -, -, valid, -⟩ :=
    rebuildLine_caches (by simp [countedDeparture]) ran
  exact ⟨r, _, ran, answers, length, valid⟩

/-- The countdown removes the listener, whose entry is marked to be skipped, and the listener
still counts as holding a valid place. -/
theorem departed_listener_counted_valid :
    ∃ r w', (rebuildLine (.list [countedDeparture]) (.int 1) (.int 1500000000)).run departureLine =
        .ok r w' ∧
      Value.equals (w'.cache.peek (Cache.stationKey (.int 1) "request_line"))
        (.list [setField (setField (setField countedDeparture "song_id" .none) "skip" (.bool true))
          "position" (.int 1)]) = true ∧
      Value.equals (w'.cache.peek (Cache.stationKey (.int 1) "request_valid_positions")) (.int 1) = true := by
  obtain ⟨r, ran⟩ := returns_in_worldAfter
    (x := rebuildLine (.list [countedDeparture]) (.int 1) (.int 1500000000)) (w := departureLine)
    (by decide +kernel)
  exact ⟨r, _, ran, by decide +kernel, by decide +kernel⟩

end Airwaves.Requests
