import Mathlib
import Airwaves.Proofs.FaveCount
import Airwaves.Proofs.ElectionRecord
import Airwaves.Proofs.ArgumentReading
import Airwaves.Proofs.ScriptedAnswers
/-!
# The artists and groups a tag names

Tag fragments are tested before they are stripped, so a fragment of blanks is looked up by the
empty name and saving the object made for it fails.
-/

namespace Airwaves

namespace Database

/-- A catalog that has no row for any name it is asked about and takes every write: each row
lookup finds nothing and each update reports a changed row, for the answers waiting and the
defaults alike. -/
structure Unfilled (db : Database) : Prop where
  rows : ∀ v ∈ db.queues.row, v.truthy = false
  noRow : (db.fallback .row).truthy = false
  writes : ∀ v ∈ db.queues.update, v.truthy = true
  written : (db.fallback .update).truthy = true

variable {db : Database}

theorem mem_call_queue {k j : QueryKind} {ps : Option (List Value)} {sql : String} {v : Value}
    (mem : v ∈ (db.call k ps sql).2.queues.get j) : v ∈ db.queues.get j := by
  simp only [call, take, record] at mem
  split at mem <;> rename_i queue <;> cases k <;> cases j <;> simp_all [Queues.get, Queues.put]

theorem call_nextId (k : QueryKind) (ps : Option (List Value)) (sql : String) :
    (db.call k ps sql).2.nextId = db.nextId := by
  simp only [Database.call, take, record]

theorem Unfilled.call (unfilled : db.Unfilled) (k : QueryKind) (ps : Option (List Value)) (sql : String) :
    (db.call k ps sql).2.Unfilled where
  rows v mem := unfilled.rows v (mem_call_queue (j := .row) mem)
  noRow := by rw [Database.fallback, call_fallbacks]; exact unfilled.noRow
  writes v mem := unfilled.writes v (mem_call_queue (j := .update) mem)
  written := by rw [Database.fallback, call_fallbacks]; exact unfilled.written

theorem Unfilled.nextIdentifier (unfilled : db.Unfilled) (table column : String) :
    (db.nextIdentifier table column).2.Unfilled :=
  ⟨unfilled.rows, unfilled.noRow, unfilled.writes, unfilled.written⟩

theorem Unfilled.row_answer (unfilled : db.Unfilled) (ps : Option (List Value)) (sql : String) :
    (db.call .row ps sql).1.truthy = false := by
  cases queue : db.queues.row with
  | nil =>
    simp only [Database.call, take, record, Queues.get, queue]
    exact unfilled.noRow
  | cons v rest =>
    simp only [Database.call, take, record, Queues.get, queue]
    exact unfilled.rows v (by simp [queue])

theorem Unfilled.update_answer (unfilled : db.Unfilled) (ps : Option (List Value)) (sql : String) :
    (db.call .update ps sql).1.truthy = true := by
  cases queue : db.queues.update with
  | nil =>
    simp only [Database.call, take, record, Queues.get, queue]
    exact unfilled.written
  | cons v rest =>
    simp only [Database.call, take, record, Queues.get, queue]
    exact unfilled.writes v (by simp [queue])

end Database

/-- A run of a sequence that returns and ends where `Q` holds, from a run of its first part that
returns and ends where `P` holds, and runs of the rest from every world where `P` holds. -/
theorem exists_run_bind {α β : Type} {x : Act α} {f : α → Act β} {w : World} {a : α} {b : β}
    {P Q : World → Prop} (first : ∃ w1, x.run w = .ok a w1 ∧ P w1)
    (rest : ∀ w1, P w1 → ∃ w2, (f a).run w1 = .ok b w2 ∧ Q w2) :
    ∃ w2, (x >>= f).run w = .ok b w2 ∧ Q w2 := by
  obtain ⟨w1, ran, holds⟩ := first
  rw [run_bind_ok ran]
  exact rest w1 holds

namespace Catalog

variable {w : World} {role : MetadataRole}

theorem metadataAt_run {h : Nat} {m : Metadata} (stored : w.store[h]? = some (.metadata m)) :
    (metadataAt (.ref h)).run w = .ok (h, m) w := by
  simp [metadataAt, deref, stored]

theorem changeMetadata_run {h : Nat} {m : Metadata} (stored : w.store[h]? = some (.metadata m))
    (f : Metadata → Metadata) :
    (changeMetadata (.ref h) f).run w = .ok () { w with store := w.store.set! h (.metadata (f m)) } := by
  simp [changeMetadata, updateMetadata, EStateM.run_bind, metadataAt_run stored, deref, stored]
  rfl

/-- The failure of saving an object of a role that has no name. -/
def unnamed (role : MetadataRole) : Fault :=
  metadataFault .metadataNotNamed ("Tried to save a " ++ role.kindName ++ " without a name")

/-- The object a name the catalog lacks is saved as: a blank object of the role carrying the
name, under the identifier it was given. -/
def savedAs (role : MetadataRole) (name : String) (id : Int) : Metadata :=
  { Metadata.blank role with id := .int id, data := Dict.putField (Metadata.blank role).data "name" (.str name) }

theorem fresh_run (w : World) :
    (fresh role).run w = .ok (.ref w.store.size) { w with store := w.store.push (.metadata (Metadata.blank role)) } :=
  rfl

theorem fetchRow_unfilled (unfilled : w.db.Unfilled) (ps : List Value) :
    ∃ r, (fetchRow ps).run w = .ok r (w.afterCall .row ps) ∧ r.truthy = false :=
  ⟨_, Cache.query_run w .row ps, unfilled.row_answer _ _⟩

theorem set!_push_size (a : Array Obj) (x y : Obj) : (a.push x).set! a.size y = a.push y := by
  apply Array.ext_getElem?
  intro i
  rw [Array.set!_eq_setIfInBounds, Array.getElem?_setIfInBounds, Array.getElem?_push, Array.getElem?_push]
  by_cases h : i = a.size <;> simp [h, eq_comm]

section Save

variable {h : Nat} {m : Metadata} (stored : w.store[h]? = some (.metadata m))
include stored

/-- Writing the row of a new object with a name gives it the next identifier. -/
theorem insertRow_run {s : String} (name : Dict.field? m.data "name" = some (.str s)) (unfilled : w.db.Unfilled) :
    ∃ w', (insertRow (.ref h)).run w = .ok true w' ∧ w'.db.Unfilled ∧
      w'.store = w.store.set! h (.metadata { m with id := .int w.db.nextId }) := by
  simp only [insertRow, EStateM.run_bind, EStateM.run_pure, metadataOf, metadataAt_run stored, Elections.nextId_run]
  rw [changeMetadata_run (w := { w with db := (w.db.nextIdentifier _ _).2 }) stored]
  simp only [dataOf, name, EStateM.run_pure, Searchable.foldIn_run, dbUpdate, Cache.query_run]
  rw [(unfilled.nextIdentifier _ _).update_answer]
  exact ⟨_, rfl, (unfilled.nextIdentifier _ _).call _ _ _, rfl⟩

/-- Saving a new object with a name inserts its row under the next identifier. -/
theorem save_named_run (noId : m.id = .none) {s : String} (name : Dict.field? m.data "name" = some (.str s))
    (named : s ≠ "") (unfilled : w.db.Unfilled) :
    ∃ w', (save (.ref h)).run w = .ok () w' ∧ w'.db.Unfilled ∧
      w'.store = w.store.set! h (.metadata { m with id := .int w.db.nextId }) := by
  have named' : (Value.str s).truthy = true := by simpa [Value.truthy] using named
  obtain ⟨w', inserted, unfilled', store'⟩ := insertRow_run stored name unfilled
  refine ⟨w', ?_, unfilled', store'⟩
  simp only [save, EStateM.run_bind, EStateM.run_pure, metadataOf, metadataAt_run stored, dataOf, name, noId,
    named', Value.truthy_none, Bool.not_false, Bool.true_and, if_true, inserted]

/-- Saving a new object whose name is empty fails, leaving the world as it was. -/
theorem save_unnamed_run (noId : m.id = .none) (name : Dict.field? m.data "name" = some (.str "")) :
    (save (.ref h)).run w = .error (unnamed m.role) w := by
  simp [save, EStateM.run_bind, metadataOf, metadataAt_run stored, dataOf, name, noId, Value.truthy, unnamed]

end Save

/-- The blank object of a role, given a name. -/
theorem named_blank (role : MetadataRole) (s : String) :
    Dict.field? (Dict.putField (Metadata.blank role).data "name" (.str s)) "name" = some (.str s) := by
  simp [Api.field?_putField]

/-- A name the catalog lacks is given to a blank object of the role under the next handle, which
is then saved. -/
theorem loadFromName_unfilled_run (role : MetadataRole) (s : String) (unfilled : w.db.Unfilled) :
    (loadFromName role (.str s)).run w =
      (do save (.ref w.store.size); pure (Value.ref w.store.size)).run
        { w.afterCall .row [.str s] with store := w.store.push (.metadata
          { Metadata.blank role with data := Dict.putField (Metadata.blank role).data "name" (.str s) }) } := by
  obtain ⟨row, looked, nothing⟩ := fetchRow_unfilled
    (w := { w with store := w.store.push (.metadata (Metadata.blank role)) }) unfilled [.str s]
  have blank : ({ w with store := w.store.push (.metadata (Metadata.blank role)) }.afterCall .row
      [.str s]).store[w.store.size]? = some (.metadata (Metadata.blank role)) :=
    Array.getElem?_push_size
  rw [loadFromName, run_bind_ok (fresh_run w), run_bind_ok looked]
  dsimp only
  rw [if_neg (by simp [nothing]), setData, run_bind_ok (changeMetadata_run blank _)]
  simp only [World.afterCall, set!_push_size]

/-- A name the catalog lacks is saved as a new object under the next identifier. -/
theorem loadFromName_unfilled (role : MetadataRole) {s : String} (unfilled : w.db.Unfilled) (named : s ≠ "") :
    ∃ w', (loadFromName role (.str s)).run w = .ok (.ref w.store.size) w' ∧ w'.db.Unfilled ∧
      w'.store = w.store.push (.metadata (savedAs role s w.db.nextId)) := by
  rw [loadFromName_unfilled_run role s unfilled]
  refine exists_run_bind (save_named_run Array.getElem?_push_size rfl (named_blank role s) named
    (unfilled.call _ _ _)) fun w2 ⟨unfilled2, store2⟩ => ⟨w2, rfl, unfilled2, ?_⟩
  simp only [store2, World.afterCall, Database.call_nextId, set!_push_size]
  rfl

/-- The empty name, when the catalog lacks it, makes an object without a name, and saving it
fails. -/
theorem loadFromName_unfilled_blank (role : MetadataRole) (unfilled : w.db.Unfilled) :
    ∃ w', (loadFromName role (.str "")).run w = .error (unnamed role) w' := by
  rw [loadFromName_unfilled_run role "" unfilled, EStateM.run_bind,
    save_unnamed_run Array.getElem?_push_size rfl (named_blank role "")]
  exact ⟨_, rfl⟩

/-! ### The loop over a tag's fragments -/

/-- The names a list of fragments is loaded by: each fragment that is not empty, stripped of
surrounding blanks. A fragment made only of blanks gives the empty name. -/
def fragmentNames (fs : List String) : List String :=
  (fs.filter fun f => 0 < f.length).map Value.strip

/-- The names a tag is split into at its commas. -/
def tagNames (t : String) : List String := fragmentNames (t.splitOn ",")

example : tagNames "A, " = ["A", ""] := by cbv

/-- The object a tag's name is loaded as when the catalog lacks it: saved under the identifier it
was given and marked as a tag. -/
def taggedAs (role : MetadataRole) (name : String) (id : Int) : Metadata :=
  { savedAs role name id with isTag := .bool true }

/-- The object behind a reference is of the role, carries the name and is marked as a tag. -/
def NamedTag (role : MetadataRole) (store : Array Obj) (v : Value) (s : String) : Prop :=
  ∃ h m, v = .ref h ∧ store[h]? = some (.metadata m) ∧ m.role = role ∧
    Dict.field? m.data "name" = some (.str s) ∧ m.isTag = .bool true

theorem NamedTag.push {store : Array Obj} {v : Value} {s : String} (named : NamedTag role store v s) (o : Obj) :
    NamedTag role (store.push o) v s := by
  obtain ⟨h, m, rfl, stored, same, name, tag⟩ := named
  exact ⟨h, m, rfl, getElem?_push_of_some stored o, same, name, tag⟩

theorem namedTag_taggedAs (store : Array Obj) (s : String) (id : Int) :
    NamedTag role (store.push (.metadata (taggedAs role s id))) (.ref store.size) s :=
  ⟨store.size, _, rfl, Array.getElem?_push_size, rfl, named_blank role s, rfl⟩

/-! ### One fragment -/

section Fragment

variable {f : String} (found : List Value)

theorem addFragment_empty (empty : ¬ 0 < f.length) (w : World) :
    (addFragment role found f).run w = .ok found w := by
  simp [addFragment, empty]

theorem addFragment_blank (kept : 0 < f.length) (blank : Value.strip f = "") (unfilled : w.db.Unfilled) :
    ∃ w', (addFragment role found f).run w = .error (unnamed role) w' := by
  obtain ⟨w', failed⟩ := loadFromName_unfilled_blank role unfilled
  refine ⟨w', ?_⟩
  rw [addFragment, if_pos kept, blank, EStateM.run_bind, failed]

theorem addFragment_named (kept : 0 < f.length) (named : Value.strip f ≠ "") (unfilled : w.db.Unfilled) :
    ∃ w', (addFragment role found f).run w = .ok (found ++ [.ref w.store.size]) w' ∧ w'.db.Unfilled ∧
      w'.store = w.store.push (.metadata (taggedAs role (Value.strip f) w.db.nextId)) := by
  obtain ⟨w1, loaded, unfilled1, store1⟩ := loadFromName_unfilled role unfilled named
  have stored : w1.store[w.store.size]? = some (.metadata (savedAs role (Value.strip f) w.db.nextId)) := by
    rw [store1]
    exact Array.getElem?_push_size
  rw [addFragment, if_pos kept, run_bind_ok loaded, run_bind_ok (changeMetadata_run stored _)]
  refine ⟨_, rfl, unfilled1, ?_⟩
  simp only [store1, set!_push_size]
  rfl

end Fragment

/-- Over a catalog that lacks every name, adding the objects of a list of fragments fails as
unnamed exactly when one of them is blank, and otherwise adds, in order, one object per fragment
that is not empty, named by its stripped text; the objects found before are kept. -/
theorem foldlM_addFragment (role : MetadataRole) (fs : List String) :
    ∀ (found : List Value) (done : List String) (w : World), w.db.Unfilled →
      List.Forall₂ (NamedTag role w.store) found done →
      ("" ∈ fragmentNames fs → ∃ w', (fs.foldlM (addFragment role) found).run w = .error (unnamed role) w') ∧
      ("" ∉ fragmentNames fs → ∃ vs w', (fs.foldlM (addFragment role) found).run w = .ok vs w' ∧
        List.Forall₂ (NamedTag role w'.store) vs (done ++ fragmentNames fs)) := by
  induction fs with
  | nil =>
    intro found done w _ named
    simpa [fragmentNames] using named
  | cons f rest ih =>
    intro found done w unfilled named
    rw [List.foldlM_cons]
    by_cases kept : 0 < f.length
    · have names : fragmentNames (f :: rest) = Value.strip f :: fragmentNames rest := by
        simp [fragmentNames, kept]
      rw [names]
      by_cases blank : Value.strip f = ""
      · -- a blank fragment fails before the rest of the tag is read
        obtain ⟨w', failed⟩ := addFragment_blank found kept blank unfilled
        exact ⟨fun _ => ⟨w', by rw [EStateM.run_bind, failed]⟩, fun absent => absurd (by simp [blank]) absent⟩
      · -- any other fragment adds its object, and the rest of the tag is read after it
        obtain ⟨w', added, unfilled', store'⟩ := addFragment_named found kept blank unfilled
        have named' : List.Forall₂ (NamedTag role w'.store) (found ++ [.ref w.store.size])
            (done ++ [Value.strip f]) := by
          rw [store']
          exact List.rel_append (named.imp fun _ _ tagged => tagged.push _) (.cons (namedTag_taggedAs _ _ _) .nil)
        rw [run_bind_ok added]
        obtain ⟨failing, finishing⟩ := ih _ _ w' unfilled' named'
        refine ⟨fun mem => failing ?_, fun absent => ?_⟩
        · simpa [Ne.symm blank] using mem
        · obtain ⟨vs, w'', ran, all⟩ := finishing (fun mem => absent (List.mem_cons_of_mem _ mem))
          exact ⟨vs, w'', ran, by simpa using all⟩
    · -- an empty fragment is skipped
      have names : fragmentNames (f :: rest) = fragmentNames rest := by simp [fragmentNames, kept]
      rw [names, run_bind_ok (addFragment_empty found kept w)]
      exact ih found done w unfilled named

theorem tagNames_empty : tagNames "" = [] := by cbv

/-- Loading a tag, over a catalog that lacks every name, fails as unnamed exactly when a fragment
of the tag is blank: made only of blanks, it is kept and then stripped to the empty name.
Otherwise the tag gives, in order, one object per fragment that is not empty, of the role, named
by the fragment's stripped text and marked as a tag. -/
theorem tagList_unnamed_iff_blank (role : MetadataRole) (t : String) (w : World) (unfilled : w.db.Unfilled) :
    ("" ∈ tagNames t → ∃ w', (loadListFromTag role (.str t)).run w = .error (unnamed role) w') ∧
    ("" ∉ tagNames t → ∃ vs w', (loadListFromTag role (.str t)).run w = .ok (.list vs) w' ∧
      List.Forall₂ (NamedTag role w'.store) vs (tagNames t)) := by
  by_cases empty : t = ""
  · -- the empty tag is not split at all
    subst empty
    refine ⟨fun mem => by simp [tagNames_empty] at mem, fun _ => ⟨[], w, ?_, by simp [tagNames_empty]⟩⟩
    simp [loadListFromTag, Value.truthy]
  · have split : loadListFromTag role (.str t) =
        ((t.splitOn ",").foldlM (addFragment role) [] >>= fun vs => pure (.list vs)) := by
      simp [loadListFromTag, Value.truthy, empty]
    obtain ⟨failing, finishing⟩ := foldlM_addFragment role (t.splitOn ",") [] [] w unfilled .nil
    rw [split]
    refine ⟨fun mem => ?_, fun absent => ?_⟩
    · obtain ⟨w', failed⟩ := failing mem
      exact ⟨w', by rw [EStateM.run_bind, failed]⟩
    · obtain ⟨vs, w', ran, all⟩ := finishing absent
      exact ⟨vs, w', by rw [run_bind_ok ran]; rfl, all⟩

end Catalog

/-- The catalog of a world built with no answers lacks every name and takes every write. -/
theorem Database.unfilled_default : ({} : Database).Unfilled where
  rows _ mem := by simp at mem
  noRow := rfl
  writes _ mem := by simp at mem
  written := rfl

/-- An artist tag with a trailing comma and blank fails as unnamed. -/
theorem Catalog.tagList_trailing_blank_unnamed :
    ∃ w', (Catalog.loadListFromTag .artist (.str "A, ")).run {} = .error (Catalog.unnamed .artist) w' :=
  (Catalog.tagList_unnamed_iff_blank .artist "A, " {} Database.unfilled_default).1 (by
    rw [show Catalog.tagNames "A, " = ["A", ""] by cbv]
    simp)

end Airwaves
