import Airwaves.Proofs.TagNames
import Airwaves.Proofs.BacklogTurns
import Airwaves.Catalog.SongFile
/-!
# The order of the artists a tag names

The first artist of a tag takes one past the largest order on file; every other artist keeps
its place in the tag.
-/

namespace Airwaves

namespace Catalog

/-- The order the first artist a tag names takes, given the song's largest order the database
reports: one past it, where zero and none alike count as none. -/
def firstOrder : Option Int → Int
  | some k => if k = 0 then 0 else k + 1
  | none => 0

/-- The orders the artists a tag names take, in the tag's order: the first takes `firstOrder`,
and every other its place in the tag. -/
def tagOrders (last : Option Int) : Nat → List Int
  | 0 => []
  | n + 1 => firstOrder last :: (List.range n).map fun j : Nat => (j : Int) + 1

/-- The order an object of the store carries, if it carries one. -/
def orderIn (store : Array Obj) (h : Nat) : Option Value :=
  match store[h]? with
  | some (.metadata m) => Dict.field? m.data "order"
  | _ => none

/-- The orders of a tag's artists increase along the tag exactly when the tag names at most one
artist, or the first order is not positive: every other artist keeps its place, from one on. -/
theorem tagOrders_increasing_iff (last : Option Int) (n : Nat) :
    (tagOrders last n).Pairwise (· < ·) ↔ n ≤ 1 ∨ firstOrder last ≤ 0 := by
  cases n with
  | zero => simp [tagOrders]
  | succ n =>
    -- every artist after the first keeps its place, so only the first can break the order
    have places : ((List.range n).map fun j : Nat => (j : Int) + 1).Pairwise (· < ·) :=
      List.pairwise_map.mpr (List.pairwise_lt_range.imp fun lt => by omega)
    rw [tagOrders, List.pairwise_cons]
    constructor
    · rintro ⟨below, -⟩
      by_cases one : n = 0
      · exact .inl (by omega)
      · have second : (1 : Int) ∈ (List.range n).map fun j : Nat => (j : Int) + 1 :=
          List.mem_map.mpr ⟨0, List.mem_range.mpr (by omega), by simp⟩
        have := below 1 second
        exact .inr (by omega)
    · rintro (few | low)
      · refine ⟨fun x mem => ?_, places⟩
        have empty : n = 0 := by omega
        simp [empty] at mem
      · refine ⟨fun x mem => ?_, places⟩
        obtain ⟨j, -, rfl⟩ := List.mem_map.mp mem
        omega

example : tagOrders (some 1) 2 = [2, 1] := by decide

example : tagOrders none 3 = [0, 1, 2] := by decide

/-! ### One artist -/

variable {w w' : World} {h : Nat} {m : Metadata} {songId : Value}

theorem metadataOf_run (stored : w.store[h]? = some (.metadata m)) :
    (metadataOf (.ref h)).run w = .ok m w := by
  rw [metadataOf, run_bind_ok (metadataAt_run stored)]
  rfl

theorem metadataAt_readOnly (v : Value) : ReadOnly (metadataAt v) := by
  unfold metadataAt
  split
  · refine (deref_readOnly _).bind fun o => ?_
    split
    · exact ReadOnly.pure _
    · exact noMember_readOnly _ _
  · exact noMember_readOnly _ _

theorem metadataOf_readOnly (v : Value) : ReadOnly (metadataOf v) :=
  (metadataAt_readOnly v).bind fun _ => ReadOnly.pure _

theorem query_keepsStore (k : QueryKind) (ps : List Value) : Live.KeepsStore (query k ps) := by
  intro w v w' run
  rw [Cache.query_run] at run
  cases run
  rfl

theorem artistOrder_keepsStore (m : Metadata) (songId order : Value) :
    Live.KeepsStore (artistOrder m songId order) := by
  unfold artistOrder
  dsimp only
  split
  · exact (query_keepsStore _ _).bind fun _ => .of_readOnly (ReadOnly.lift _)
  · split
    · exact .of_readOnly (ReadOnly.pure _)
    · exact .of_readOnly (ReadOnly.pure _)

/-- An order other than zero is taken as given. -/
theorem artistOrder_given {i : Int} (placed : i ≠ 0) (w : World) :
    (artistOrder m songId (.int i)).run w = .ok (.int i) w := by
  simp [artistOrder, Value.truthy, placed]

/-- Order zero, for an artist carrying no order of its own, is one past the song's largest order
the database reports. -/
theorem artistOrder_first {last : Option Int}
    (unordered : (Value.ofOption (Dict.field? m.data "order")).truthy = false)
    (answered : w.db.varAnswer 0 = Value.ofOption (last.map .int)) :
    (artistOrder m songId (.int 0)).run w = .ok (.int (firstOrder last)) (w.afterCall .var [songId]) := by
  have asked : (fieldOr (.dict m.data) "order" .none).truthy = false := by
    cases found : Dict.field? m.data "order" <;> simp_all [fieldOr, Value.ofOption]
  have asks : (!(Value.int 0).truthy && (!hasField (.dict m.data) "order" ||
      !(fieldOr (.dict m.data) "order" .none).truthy)) = true := by
    rw [asked, Bool.not_false, Bool.or_true]
    rfl
  unfold artistOrder
  dsimp only
  rw [if_pos asks, run_bind_ok (fetchVar_run w [songId]), answered]
  cases last with
  | none => rfl
  | some k =>
    by_cases zero : k = 0
    · subst zero
      rfl
    · have counted : (Value.ofOption ((some k).map Value.int)).truthy = true := by
        simp [Value.ofOption, Value.truthy, zero]
      rw [if_pos counted]
      simp [firstOrder, zero]
      rfl

/-- Linking an artist with a song, keeping its own flag, leaves the store alone. -/
theorem link_keepsStore (v songId order : Value) : Live.KeepsStore (link .artist v songId .none order) := by
  unfold link
  dsimp only
  -- an artist keeps its own flag and is not shown on stations the way a group is
  have artistNotGroup : (MetadataRole.artist == MetadataRole.group) = false := rfl
  rw [if_pos (show Value.equals .none .none = true from rfl)]
  simp only [artistNotGroup, Bool.false_eq_true, if_false]
  refine (Live.KeepsStore.of_readOnly (metadataOf_readOnly v)).bind fun _ => ?_
  refine (Live.KeepsStore.of_readOnly (metadataOf_readOnly v)).bind fun m => ?_
  refine (query_keepsStore _ _).bind fun _ => (Live.KeepsStore.of_readOnly (ReadOnly.pure _)).bind fun _ => ?_
  split
  · exact .of_readOnly (ReadOnly.pure _)
  · refine (query_keepsStore _ _).bind fun _ => ?_
    split
    · exact .of_readOnly ((ReadOnly.raise _).bind fun _ => ReadOnly.pure _)
    · exact .of_readOnly (ReadOnly.pure _)

/-- Associating an artist with a song records in the artist the order it takes, and touches
nothing else in the store. -/
theorem associate_artist_store {order : Value} (stored : w.store[h]? = some (.metadata m))
    (artist : m.role = .artist) (ran : (associate (.ref h) songId .none order).run w = .ok () w') :
    ∃ o w1, (artistOrder m songId order).run w = .ok o w1 ∧
      w'.store = w.store.set! h (.metadata { m with data := Dict.putField m.data "order" o }) := by
  rw [associate, run_bind_ok (metadataOf_run stored)] at ran
  simp only [artist] at ran
  obtain ⟨o, w1, ordered, rest⟩ := run_bind_eq_ok ran
  obtain ⟨u, w2, recorded, linked⟩ := run_bind_eq_ok rest
  have kept : w1.store = w.store := artistOrder_keepsStore m songId order w o w1 ordered
  rw [setData, changeMetadata_run (kept ▸ stored)] at recorded
  cases recorded
  refine ⟨o, w1, ordered, ?_⟩
  rw [link_keepsStore _ _ _ _ _ _ linked, kept]

/-- One pass of the loop over a tag's artists: the artist at the place takes the order
`artistOrder` gives for the place, and the loop moves on to the next place. -/
theorem associate_pass {s : Int} {step : ForInStep Int} (stored : w.store[h]? = some (.metadata m))
    (artist : m.role = .artist)
    (ran : (do associate (.ref h) songId .none (.int s); pure (ForInStep.yield (s + 1)) :
      Act (ForInStep Int)).run w = .ok step w') :
    step = .yield (s + 1) ∧ ∃ o w1, (artistOrder m songId (.int s)).run w = .ok o w1 ∧
      w'.store = w.store.set! h (.metadata { m with data := Dict.putField m.data "order" o }) := by
  obtain ⟨u, w1, associated, yielded⟩ := run_bind_eq_ok ran
  obtain ⟨rfl, rfl⟩ := run_pure_eq_ok yielded
  exact ⟨rfl, associate_artist_store stored artist associated⟩

theorem orderIn_set_self {store : Array Obj} (stored : store[h]? = some (.metadata m)) (o : Value) :
    orderIn (store.set! h (.metadata { m with data := Dict.putField m.data "order" o })) h = some o := by
  unfold orderIn
  rw [getElem?_set!_self stored]
  simp [Api.field?_putField]

theorem orderIn_congr {s t : Array Obj} (same : s[h]? = t[h]?) : orderIn s h = orderIn t h := by
  unfold orderIn
  rw [same]

end Catalog

namespace Songs

open Catalog

/-- The artists of a tag that are all stored, as artists. -/
def StoredArtists (store : Array Obj) (hs : List Nat) : Prop :=
  ∀ h ∈ hs, ∃ m, store[h]? = some (.metadata m) ∧ m.role = .artist

/-- Rewriting one artist leaves the others stored as they were. -/
theorem StoredArtists.pass {store : Array Obj} {h : Nat} {rest : List Nat}
    (artists : StoredArtists store (h :: rest)) (fresh : h ∉ rest) (o : Obj) :
    StoredArtists (store.set! h o) rest := fun g mem => by
  rw [getElem?_set!_of_ne _ (by rintro rfl; exact fresh mem)]
  exact artists g (List.mem_cons_of_mem _ mem)

/-- The order an artist takes in its pass is the one it ends with, when the later passes leave it
alone. -/
theorem orderIn_after_pass {s s' : Array Obj} {h : Nat} {m : Metadata} {o : Value}
    (stored : s[h]? = some (.metadata m))
    (later : s'[h]? = (s.set! h (.metadata { m with data := Dict.putField m.data "order" o }))[h]?) :
    orderIn s' h = some o := by
  rw [orderIn_congr later, orderIn_set_self stored]

/-- From a place other than the first on, every artist takes its place as its order, and the
objects not passed over stay as they were. -/
theorem forIn_associate_from (songId : Value) (hs : List Nat) :
    ∀ (i : Int) (w w' : World) (r : Int), 0 < i → hs.Nodup → StoredArtists w.store hs →
      (forIn (hs.map Value.ref) i fun x s => do
          associate x songId .none (.int s)
          pure (ForInStep.yield (s + 1))).run w = .ok r w' →
      hs.map (orderIn w'.store) = (List.range hs.length).map (fun j : Nat => some (.int (i + j))) ∧
        ∀ g ∉ hs, w'.store[g]? = w.store[g]? := by
  induction hs with
  | nil =>
    intro i w w' r _ _ _ ran
    cases ran
    exact ⟨rfl, fun _ _ => rfl⟩
  | cons h rest ih =>
    intro i w w' r positive distinct artists ran
    rw [List.map_cons, List.forIn_cons] at ran
    obtain ⟨step, w1, first, more⟩ := run_bind_eq_ok ran
    obtain ⟨m, stored, artist⟩ := artists h List.mem_cons_self
    obtain ⟨rfl, o, w2, ordered, store1⟩ := associate_pass stored artist first
    rw [artistOrder_given (by omega) w] at ordered
    cases ordered
    have fresh : h ∉ rest := (List.nodup_cons.mp distinct).1
    obtain ⟨orders, frame⟩ := ih (i + 1) w1 w' r (by omega) (List.nodup_cons.mp distinct).2
      (store1 ▸ artists.pass fresh _) more
    refine ⟨?_, fun g absent => ?_⟩
    · rw [List.map_cons, orders, orderIn_after_pass stored (store1 ▸ frame h fresh), List.length_cons,
        List.range_succ_eq_map]
      simp only [List.map_cons, List.map_map, Function.comp_def]
      congr 1
      · simp
      · refine List.map_congr_left fun j _ => ?_
        congr 2
        omega
    · rw [frame g (fun mem => absent (List.mem_cons_of_mem _ mem)), store1,
        getElem?_set!_of_ne _ (fun same => absent (by simp [same]))]

/-- Associating the artists a tag names with a song, as loading the song's file does, gives them
the orders `tagOrders` in the tag's order: the first takes one past the song's largest order the
database reports, where zero and none alike count as none, and each other its place in the tag. -/
theorem tagArtists_orders {hs : List Nat} {songId : Value} {last : Option Int} {w w' : World}
    (distinct : hs.Nodup) (artists : StoredArtists w.store hs)
    (unordered : ∀ h ∈ hs.head?, (Value.ofOption (orderIn w.store h)).truthy = false)
    (answered : w.db.varAnswer 0 = Value.ofOption (last.map .int))
    (ran : (associateTagArtists (hs.map .ref) songId).run w = .ok () w') :
    hs.map (orderIn w'.store) = (tagOrders last hs.length).map fun o => some (.int o) := by
  rw [associateTagArtists] at ran
  dsimp only at ran
  obtain ⟨r, w1, looped, finished⟩ := run_bind_eq_ok ran
  obtain ⟨-, rfl⟩ := run_pure_eq_ok finished
  cases hs with
  | nil => rfl
  | cons h rest =>
    rw [List.map_cons, List.forIn_cons] at looped
    obtain ⟨step, w2, first, more⟩ := run_bind_eq_ok looped
    obtain ⟨m, stored, artist⟩ := artists h List.mem_cons_self
    obtain ⟨rfl, o, w3, ordered, store2⟩ := associate_pass stored artist first
    -- the first artist, carrying no order, asks the database for the song's largest one
    have own : (Value.ofOption (Dict.field? m.data "order")).truthy = false := by
      simpa [orderIn, stored] using unordered h rfl
    rw [artistOrder_first own answered] at ordered
    cases ordered
    have fresh : h ∉ rest := (List.nodup_cons.mp distinct).1
    obtain ⟨orders, frame⟩ := forIn_associate_from songId rest 1 w2 _ r Int.one_pos
      (List.nodup_cons.mp distinct).2 (store2 ▸ artists.pass fresh _) more
    rw [List.map_cons, orders, orderIn_after_pass stored (store2 ▸ frame h fresh), List.length_cons, tagOrders]
    simp only [List.map_cons, List.map_map, Function.comp_def]
    congr 1
    refine List.map_congr_left fun j _ => ?_
    congr 2
    omega

/-- A song that keeps an artist at order 1, with the two artists its tag names stored under 0
and 1 as loading the tag leaves them. -/
def rescanned : World where
  store := #[.metadata (taggedAs .artist "A" 1), .metadata (taggedAs .artist "B" 2)]
  db := { queues := { var := [.int 1] } }

/-- Rescanning such a song puts the first artist of its tag after the second. -/
theorem rescanned_first_after_second :
    [0, 1].map (orderIn (worldAfter (associateTagArtists [.ref 0, .ref 1] (.int 7)) rescanned).store) =
      [some (.int 2), some (.int 1)] :=
  @tagArtists_orders [0, 1] (.int 7) (some 1) rescanned _ (by decide)
    (fun h mem => by
      rcases List.mem_pair.mp mem with rfl | rfl
      · exact ⟨_, rfl, rfl⟩
      · exact ⟨_, rfl, rfl⟩)
    (fun h mem => by
      cases Option.mem_some_iff.mp mem
      rfl)
    rfl (run_eq_ok_of_succeeds (x := associateTagArtists [.ref 0, .ref 1] (.int 7)) (w := rescanned)
      (by decide +kernel))

end Songs

end Airwaves
