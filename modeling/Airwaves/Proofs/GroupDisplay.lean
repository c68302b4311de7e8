import Airwaves.Proofs.FaveCount
import Airwaves.Proofs.ArtistOrder
import Airwaves.Proofs.ElectionRecord
/-!
# Where a group is shown

The display flag is written without the station, so every row of the group takes the verdict
of the last station with a row.
-/

namespace Airwaves

namespace Database

variable {db : Database}

theorem call_statements (k : QueryKind) (ps : Option (List Value)) (sql : String) :
    (db.call k ps sql).2.statements = db.statements := by
  simp only [call, take, record]

theorem call_all_row (ps : Option (List Value)) (sql : String) :
    (db.call .all ps sql).2.queues.row = db.queues.row := by
  simp only [call, take, record]
  split <;> rfl

theorem callStatement_statements (k : QueryKind) (sql : String) (ps : List Value) :
    (db.callStatement k sql ps).2.statements = db.statements.push (sql, ps) :=
  call_statements k (some ps) sql

theorem callStatement_update_row (sql : String) (ps : List Value) :
    (db.callStatement .update sql ps).2.queues.row = db.queues.row :=
  call_update_row (some ps) sql

end Database

namespace Catalog

/-! ### The rows of a group -/

/-- A group's station rows: the display flag of each station that has a row. -/
abbrev GroupRows := Int → Option Bool

/-- Whether a station is among the stations the database answered. -/
def qualifies (newSids : List Value) (sid : Int) : Bool := newSids.any (Value.equals · (.int sid))

/-- Two texts that differ only in the flag between a shared start and end differ. -/
theorem flagText_ne (start finish : String) : start ++ "TRUE" ++ finish ≠ start ++ "FALSE" ++ finish := by
  intro same
  have letters := congrArg String.toList same
  simp only [String.toList_append, List.append_cancel_left_eq, List.append_cancel_right_eq] at letters
  exact absurd letters (by decide)

theorem groupDisplayText_true_ne_false : groupDisplayText true ≠ groupDisplayText false := flagText_ne _ _

namespace GroupRows

/-- Every row shows the flag `b`. -/
def showAll (t : GroupRows) (b : Bool) : GroupRows := fun s => (t s).map fun _ => b

/-- The rows of the group a statement names, after it: the display update sets the flag of every
row of the group, the insert adds a shown row for its station, and any other statement leaves
them. -/
def exec (t : GroupRows) : String × List Value → GroupRows
  | (text, [_]) =>
    if text = groupDisplayText true then t.showAll true
    else if text = groupDisplayText false then t.showAll false
    else t
  | (text, [_, .int sid]) => if text = groupInsertText then Function.update t sid (some true) else t
  | _ => t

/-- The row the database answers for a station: the row's flag when it has one, else nothing. -/
def rowOf (t : GroupRows) (s : Int) : Value :=
  match t s with
  | some b => .dict [(.str "group_display", .bool b)]
  | none => .none

variable {g : Value} {t : GroupRows}

theorem exec_display (b : Bool) : t.exec (groupDisplayText b, [g]) = t.showAll b := by
  cases b with
  | true => simp [exec]
  | false =>
    have other : groupDisplayText false ≠ groupDisplayText true := fun same =>
      groupDisplayText_true_ne_false same.symm
    simp [exec, other]

theorem exec_insert (sid : Int) : t.exec (groupInsertText, [g, .int sid]) = Function.update t sid (some true) := by
  simp [exec]

theorem truthy_rowOf (s : Int) : (t.rowOf s).truthy = (t s).isSome := by
  unfold rowOf
  cases t s <;> rfl

end GroupRows

/-! ### The statements of a reconciliation -/

/-- The statements issued for a station: the display update with the station's verdict when it
has a row, else the insert when it qualifies. -/
def stationStatements (g : Value) (newSids : List Value) (existing : Bool) (sid : Int) :
    List (String × List Value) :=
  if existing then [(groupDisplayText (qualifies newSids sid), [g])]
  else if qualifies newSids sid then [(groupInsertText, [g, .int sid])] else []

section Effect

variable {g : Value} {newSids : List Value} {existing : Int → Bool}

/-- What the statements of one station do to the rows. -/
theorem foldl_stationStatements (t : GroupRows) (sid : Int) :
    (stationStatements g newSids (existing sid) sid).foldl GroupRows.exec t =
      if existing sid then t.showAll (qualifies newSids sid)
      else if qualifies newSids sid then Function.update t sid (some true) else t := by
  unfold stationStatements
  split
  · simp [GroupRows.exec_display]
  · split
    · simp [GroupRows.exec_insert]
    · rfl

/-- The statements of a walk over stations never remove a row, and add one exactly for each
walked station without a row that qualifies. -/
theorem isSome_foldl_statements (sids : List Int) (t : GroupRows) (s : Int) :
    ((sids.flatMap fun sid => stationStatements g newSids (existing sid) sid).foldl GroupRows.exec t s).isSome ↔
      (t s).isSome ∨ (s ∈ sids ∧ qualifies newSids s ∧ existing s = false) := by
  induction sids generalizing t with
  | nil => simp
  | cons sid sids ih =>
    rw [List.flatMap_cons, List.foldl_append, foldl_stationStatements, ih]
    -- the station's own statements keep every row and add its own when it is inserted
    by_cases here : s = sid
    · subst here
      cases existing s <;> cases qualifies newSids s <;> simp [GroupRows.showAll]
    · cases existing sid <;> cases qualifies newSids sid <;> simp [GroupRows.showAll, here]

/-- Over stations none of which has a row, the statements only add a shown row for each
station that qualifies. -/
theorem foldl_statements_of_absent (sids : List Int) (absent : ∀ sid ∈ sids, existing sid = false)
    (t : GroupRows) :
    (sids.flatMap fun sid => stationStatements g newSids (existing sid) sid).foldl GroupRows.exec t =
      fun s => if s ∈ sids ∧ qualifies newSids s then some true else t s := by
  induction sids generalizing t with
  | nil => simp
  | cons sid sids ih =>
    rw [List.flatMap_cons, List.foldl_append, foldl_stationStatements, absent sid List.mem_cons_self,
      ih fun s mem => absent s (List.mem_cons_of_mem _ mem)]
    funext s
    by_cases here : s = sid
    · subst here
      cases qualifies newSids s <;> simp
    · cases qualifies newSids sid <;> simp [here]

/-- Over stations split at the last one with a row: every row that existed, or was inserted
before that station, shows its verdict, and only the rows inserted after it are shown. -/
theorem foldl_statements_split (before after : List Int) {last : Int} (present : existing last = true)
    (absent : ∀ sid ∈ after, existing sid = false) (t : GroupRows) (s : Int) :
    ((before ++ last :: after).flatMap fun sid => stationStatements g newSids (existing sid) sid).foldl
        GroupRows.exec t s =
      if s ∈ after ∧ qualifies newSids s then some true
      else if (t s).isSome ∨ (s ∈ before ∧ qualifies newSids s ∧ existing s = false) then
        some (qualifies newSids last)
      else none := by
  rw [List.flatMap_append, List.foldl_append, List.flatMap_cons, List.foldl_append, foldl_stationStatements,
    if_pos present, foldl_statements_of_absent after absent]
  -- at the last station every row takes its verdict; which rows exist is what the walk before left
  have grown : ((before.flatMap fun sid => stationStatements g newSids (existing sid) sid).foldl
      GroupRows.exec t s).isSome ↔ (t s).isSome ∨ (s ∈ before ∧ qualifies newSids s ∧ existing s = false) :=
    isSome_foldl_statements before t s
  simp only [GroupRows.showAll]
  split
  · rfl
  · cases rowBefore : ((before.flatMap fun sid => stationStatements g newSids (existing sid) sid).foldl
        GroupRows.exec t s) with
    | none =>
      rw [rowBefore] at grown
      simp only [Option.isSome_none, Bool.false_eq_true, false_iff] at grown
      simp [grown]
    | some b =>
      rw [rowBefore] at grown
      simp only [Option.isSome_some, true_iff] at grown
      simp [grown]

end Effect

/-! ### The run -/

/-- Reading one column of rows that each name it gives the named values. -/
theorem mapM_col_run {rows : List Dict} {key : String} {xs : List Value}
    (named : rows.map (Dict.field? · key) = xs.map some) (w : World) :
    ((rows.map .dict).mapM fun row => col row key).run w = .ok xs w := by
  induction rows generalizing xs with
  | nil =>
    cases xs with
    | nil => rfl
    | cons x xs => cases named
  | cons d rows ih =>
    cases xs with
    | nil => cases named
    | cons x xs =>
      simp only [List.map_cons, List.cons.injEq] at named
      rw [List.map_cons, List.mapM_cons, run_bind_ok (col_dict_run named.1 w), run_bind_ok (ih named.2)]
      rfl

section Run

variable {g : Value} {newSids : List Value} {t : GroupRows}

/-- A walk over stations whose every pass, with the station's row first among the row answers,
takes that answer and issues the statements of `stationStatements`, followed by an action that
changes nothing, issues the statements of every station in turn. -/
theorem forIn_stationStatements_bind {β : Type} {f : Value → PUnit → Act (ForInStep PUnit)}
    {k : PUnit → Act β} {b : β} {base : Array (String × List Value)}
    (step : ∀ (sid : Int) (w : World) later, w.db.queues.row = t.rowOf sid :: later →
      ∃ w', (f (.int sid) ⟨⟩).run w = .ok (.yield ⟨⟩) w' ∧ w'.db.queues.row = later ∧
        w'.db.statements = w.db.statements ++ (stationStatements g newSids (t sid).isSome sid).toArray)
    (rest : ∀ w, (k ⟨⟩).run w = .ok b w) (sids : List Int) :
    ∀ w later, w.db.queues.row = sids.map t.rowOf ++ later → w.db.statements = base →
      ∃ w', ((forIn (sids.map .int) ⟨⟩ f) >>= k).run w = .ok b w' ∧
        w'.db.statements = base ++ (sids.flatMap fun sid => stationStatements g newSids (t sid).isSome sid).toArray := by
  induction sids generalizing base with
  | nil => intro w later _ issued; exact ⟨w, rest w, by simp [issued]⟩
  | cons sid sids ih =>
    intro w later heads issued
    obtain ⟨w₁, first, popped, issued₁⟩ := step sid w (sids.map t.rowOf ++ later) heads
    obtain ⟨w', run, issued'⟩ := ih w₁ later popped issued₁
    refine ⟨w', ?_, ?_⟩
    · rw [List.map_cons, List.forIn_cons, bind_assoc, run_bind_ok first]
      exact run
    · simp [issued', issued, Array.append_assoc]

/-- Reconciling a group whose database answers the qualifying stations `newSids`, and answers each
configured station's row from the rows `t`, issues the statements of every configured station in
turn. -/
theorem reconcileGroup_run {w : World} {hv : Nat} {m : Metadata} {rows : List Dict} {later : List Value}
    {sids : List Int} (t : GroupRows) (stored : w.store[hv]? = some (.metadata m))
    (answered : (w.db.call .all (some [m.id]) "").1 = .list (rows.map .dict))
    (named : rows.map (Dict.field? · "sid") = newSids.map some)
    (stations : w.config.stationIds = sids.map .int)
    (rowsRead : w.db.queues.row = sids.map t.rowOf ++ later) :
    ∃ w', (reconcileGroup (.ref hv)).run w = .ok () w' ∧
      w'.db.statements =
        w.db.statements ++ (sids.flatMap fun sid => stationStatements m.id newSids (t sid).isSome sid).toArray := by
  have fetched : (fetchAll [m.id]).run w = .ok (.list (rows.map .dict)) (w.afterCall .all [m.id]) := by
    rw [fetchAll, Cache.query_run, answered]
    rfl
  have listed : Config.stationIdList.run (w.afterCall .all [m.id]) =
      .ok (sids.map .int) (w.afterCall .all [m.id]) := by
    rw [← stations]
    rfl
  unfold reconcileGroup
  rw [run_bind_ok (metadataOf_run stored), run_bind_ok fetched, run_bind_ok (itemsOf_list_run _ _),
    run_bind_ok (mapM_col_run named _), run_bind_ok listed]
  refine forIn_stationStatements_bind ?step (fun _ => rfl) sids _ later ?rows ?issued
  case rows => exact (Database.call_all_row _ _).trans rowsRead
  case issued => exact Database.call_statements _ _ _
  case step =>
    -- one station: its row is read, then the display update or the insert is issued
    intro sid w₁ rest heads
    obtain ⟨answer, popped⟩ := Database.call_row_of_head heads (some [m.id, .int sid]) ""
    have read : (fetchRow [m.id, .int sid]).run w₁ = .ok (t.rowOf sid) (w₁.afterCall .row [m.id, .int sid]) := by
      rw [fetchRow, Cache.query_run, answer]
      rfl
    have truthy := GroupRows.truthy_rowOf (t := t) sid
    -- the world after the row is read and one statement issued
    let issuing (text : String) (ps : List Value) : World :=
      { w₁.afterCall .row [m.id, .int sid] with
        db := ((w₁.afterCall .row [m.id, .int sid]).db.callStatement .update text ps).2 }
    unfold stationStatements
    simp only [run_bind_ok read]
    cases present : (t sid).isSome
    · rw [present] at truthy
      cases shown : qualifies newSids sid
      · refine Exists.intro (w₁.afterCall .row [m.id, .int sid]) ⟨?run, ?row, ?issued⟩
        case run =>
          rw [if_neg (by simp [truthy]), if_neg (by simpa [qualifies] using shown)]
          rfl
        case row => exact popped
        case issued => simp [World.afterCall, Database.call_statements]
      · refine Exists.intro (issuing groupInsertText [m.id, .int sid]) ⟨?run, ?row, ?issued⟩
        case run =>
          rw [if_neg (by simp [truthy]), if_pos (by simpa [qualifies] using shown)]
          rfl
        case row => exact (Database.callStatement_update_row _ _).trans popped
        case issued => simp [issuing, World.afterCall, Database.callStatement_statements, Database.call_statements]
    · rw [present] at truthy
      refine Exists.intro (issuing (groupDisplayText (qualifies newSids sid)) [m.id]) ⟨?run, ?row, ?issued⟩
      case run =>
        rw [if_pos truthy]
        rfl
      case row => exact (Database.callStatement_update_row _ _).trans popped
      case issued => simp [issuing, World.afterCall, Database.callStatement_statements, Database.call_statements]

end Run

/-! ### What a reconciliation leaves -/

/-- Reconciling a group, with the database answering the qualifying stations `newSids` and each
configured station's row from the rows `t`, issues statements that, executed on `t`, leave this:
when some configured station has a row, every row that existed, and every row inserted for a
station before the last such station, shows whether that last station qualifies, and the rows
inserted after it are shown; when no configured station has a row, a shown row is added for each
that qualifies and the other rows are left as they were. -/
theorem reconcileGroup_display {w : World} {hv : Nat} {m : Metadata} {rows : List Dict}
    {newSids later : List Value} {sids : List Int} (t : GroupRows) (stored : w.store[hv]? = some (.metadata m))
    (answered : (w.db.call .all (some [m.id]) "").1 = .list (rows.map .dict))
    (named : rows.map (Dict.field? · "sid") = newSids.map some)
    (stations : w.config.stationIds = sids.map .int)
    (rowsRead : w.db.queues.row = sids.map t.rowOf ++ later) :
    ∃ (w' : World) (issued : List (String × List Value)), (reconcileGroup (.ref hv)).run w = .ok () w' ∧
      w'.db.statements = w.db.statements ++ issued.toArray ∧
      (∀ before last after, sids = before ++ last :: after → (t last).isSome → (∀ s ∈ after, t s = none) →
        ∀ s, issued.foldl GroupRows.exec t s =
          if s ∈ after ∧ qualifies newSids s then some true
          else if (t s).isSome ∨ (s ∈ before ∧ qualifies newSids s) then some (qualifies newSids last)
          else none) ∧
      ((∀ s ∈ sids, t s = none) →
        ∀ s, issued.foldl GroupRows.exec t s = if s ∈ sids ∧ qualifies newSids s then some true else t s) := by
  obtain ⟨w', run, issued⟩ := reconcileGroup_run t stored answered named stations rowsRead
  refine ⟨w', _, run, issued, ?_, ?_⟩
  · rintro before last after rfl present absent s
    rw [foldl_statements_split before after present (fun sid mem => by simp [absent sid mem])]
    -- a station without a row that qualifies is inserted: `(t s).isSome = false` is implied
    cases (t s).isSome <;> simp
  · intro absent s
    rw [foldl_statements_of_absent sids (fun sid mem => by simp [absent sid mem])]

/-- Group 20 has a row on stations 1 and 2; only station 1 qualifies. -/
def twoStationGroup : World where
  config := { stationIds := [.int 1, .int 2] }
  store := #[.metadata { role := .group, id := .int 20 }]
  db := { queues :=
    { all := [.list [.dict [(.str "sid", .int 1), (.str "count", .int 2)]]],
      row := [.dict [(.str "group_display", .bool true)], .dict [(.str "group_display", .bool true)]] } }

/-- Station 2, the last with a row, does not qualify, so the row of station 1 is hidden too: every
row of the group ends hidden. -/
theorem lastStation_hides_group :
    ∃ (w' : World) (issued : List (String × List Value)), (reconcileGroup (.ref 0)).run twoStationGroup = .ok () w' ∧
      w'.db.statements = twoStationGroup.db.statements ++ issued.toArray ∧
      ∀ s, issued.foldl GroupRows.exec (fun _ => some true) s = some false := by
  obtain ⟨w', issued, run, statements, lastWins, -⟩ :=
    @reconcileGroup_display twoStationGroup 0 _ [[(.str "sid", .int 1), (.str "count", .int 2)]] [.int 1] []
      [1, 2] (fun _ => some true) rfl rfl rfl rfl rfl
  refine ⟨w', issued, run, statements, fun s => ?_⟩
  -- the rows are split before station 2, the last with a row
  rw [lastWins [1] 2 [] rfl rfl (by simp)]
  have hidden : qualifies [.int 1] 2 = false := by decide
  simp [hidden]

end Catalog

end Airwaves
