import RecordStore.Proofs.Client.CursorInvariant
import RecordStore.Proofs.Client.Streaming

/-!
# Operations that leave no cursor behind

No operation of a collection or a lock leaves a cursor open or closes one of others, however it ends, except for the
search that hands out a record cursor (`PlainOperation.tidy`). Operations that read results open at most one cursor at a
time, which they have closed or dropped before they go on; all others do not ask for cursors at all.
-/

namespace RecordStore

open RecordCursor (protocol)

namespace Program

variable {α β : Type}

theorem andThen_assoc {γ : Type} (p : Program (Except ClientError α)) (f : α → Program (Except ClientError β))
    (g : β → Program (Except ClientError γ)) : (p.andThen f).andThen g = p.andThen fun a => (f a).andThen g := by
  unfold andThen
  rw [bind_assoc]
  congr 1
  funext result
  cases result <;> rfl

theorem mapOk_andThen (p : Program (Except ClientError α)) (f : α → β) {γ : Type}
    (g : β → Program (Except ClientError γ)) : (p.mapOk f).andThen g = p.andThen fun a => g (f a) := by
  unfold andThen mapOk
  rw [bind_assoc]
  congr 1
  funext result
  cases result <;> rfl

/-- However it ends, the program leaves the cursors of the store as it has found them. -/
def Tidy (p : Program α) : Prop :=
  ∀ w s, w.store = ⟨s, []⟩ → s.CursorsNamed →
    ∃ t, (p.run w).2.store = ⟨t, []⟩ ∧ t.CursorsNamed ∧ t.cursors = s.cursors

namespace Tidy

theorem done (a : α) : (Program.done a).Tidy := fun _ s plain named => ⟨s, plain, named, rfl⟩

theorem stalled : (Program.stalled : Program α).Tidy := fun _ s plain named => ⟨s, plain, named, rfl⟩

theorem bind {p : Program α} {f : α → Program β} (first : p.Tidy) (second : ∀ a, (f a).Tidy) : (p.bind f).Tidy := by
  intro w s plain named
  obtain ⟨t, left, still, same⟩ := first w s plain named
  rw [run_bind]
  split
  · rename_i a w₁ ran
    rw [ran] at left
    obtain ⟨u, final, names, others⟩ := second a w₁ t left still
    exact ⟨u, final, names, others.trans same⟩
  · rename_i w₁ ran
    rw [ran] at left
    exact ⟨t, left, still, same⟩

theorem andThen {p : Program (Except ClientError α)} {f : α → Program (Except ClientError β)} (first : p.Tidy)
    (second : ∀ a, (f a).Tidy) : (p.andThen f).Tidy :=
  .bind first fun result => by
    cases result with
    | error e => exact .done _
    | ok a => exact second a

theorem mapOk {p : Program (Except ClientError α)} (tidy : p.Tidy) (f : α → β) : (p.mapOk f).Tidy :=
  .bind tidy fun _ => .done _

theorem request {r : Request} (unrelated : r.usesCursors = false) : (Program.request r).Tidy := by
  intro w s plain named
  refine ⟨(s.answer r).2, ?_, named.answer r, ((s.answer_behaved r).cursors unrelated).cursors⟩
  rw [request_run plain]

theorem requestOr {p : Program (Except StoreError α)} (tidy : p.Tidy) (meaning : StoreError → ClientError) :
    (Program.requestOr p meaning).Tidy :=
  .bind tidy fun _ => .done _

theorem aside {action : Action} (quiet : ∀ r, action ≠ .store r) : (Program.ofAction action).Tidy := by
  intro w s plain named
  refine ⟨s, ?_, named, rfl⟩
  cases action with
  | store r => exact absurd rfl (quiet r)
  | claim lock =>
    dsimp only [Program.ofAction, run, World.answer]
    split <;> exact plain
  | _ => exact plain

end Tidy
end Program

/-! ### Reading results -/

namespace RecordCursor

variable {ρ α β : Type} {c : RecordCursor ρ} {w : World} {rest : List Value}

/-- A program that uses a record cursor up: it ends, and the cursor of the store is gone then. -/
structure Consumes (f : RecordCursor ρ → Program α) : Prop where
  follows : ∀ c x, c.Fits x → (f c).Follows protocol (fun y _ => y.isOpened = false) x
  ends : ∀ c w rest, c.Streams w rest → (f c).EndsAmong (Turn.Fits c.id True) w fun _ _ _ => True

variable [Record ρ]

theorem toListAndDrop_consumes : Consumes (fun c : RecordCursor ρ => c.toListAndDrop) where
  follows _ _ fits := toListAndDrop_follows fits
  ends _ _ _ streams := (toListAndDrop_ends streams).mono fun _ _ _ _ => trivial

theorem Consumes.skip {f : RecordCursor ρ → Program α} (consumes : Consumes f) (n : Nat) :
    Consumes fun c => (c.skip n).bind f where
  follows c x fits := .bind (skip_follows n fits) fun y d fits => consumes.follows d y fits
  ends c w rest streams := by
    refine .bind (skip_reads n streams) ?_
    rintro d calls w' ⟨sameId, left⟩
    rw [← sameId]
    exact consumes.ends d w' _ left

omit [Record ρ] in
/-- A query whose results are used up leaves no cursor behind. -/
theorem Consumes.tidy {f : RecordCursor ρ → Program (Except ClientError α)} (consumes : Consumes f) (q : BoundQuery)
    (meaning : StoreError → ClientError) :
    ((Program.requestOr (Program.request (.execute q)) meaning).andThen fun b => f (.ofBatch b)).Tidy := by
  intro w s plain named
  have done := s.answer_execute q
  rw [Program.andThen, Program.requestOr, Program.bind_assoc, Program.run_bind, Program.request_run plain]
  cases answered : (s.answer (.execute q)).1 with
  | error e =>
    rw [answered] at done
    generalize (s.answer (.execute q)).2 = t at done ⊢
    cases done
    exact ⟨s, rfl, named, rfl⟩
  | ok b =>
    have executed := Store.execute_of_answer answered
    rw [answered] at done
    have still := named.answer (.execute q)
    generalize (s.answer (.execute q)).2 = t at done still executed ⊢
    let w₁ : World := { w with store := ⟨t, []⟩ }
    -- that the program ends is seen from the results that are left, and how it ends from its protocol
    obtain ⟨results, -, -, streams⟩ := RecordCollection.streams_of_execute (ρ := ρ) (w := w₁) rfl executed
    obtain ⟨a, -, w', ran, -⟩ := (consumes.ends _ w₁ _ streams).run (Turn.fits_alone _ _)
    have follows := consumes.follows _ _ (.ofBatch done.hasMore)
    have holds : (CursorPhase.ofBatch b).Holds (fun _ => true) t := CursorPhase.holds_ofBatch done
    obtain ⟨y, u, left, names, held, unopened, same⟩ := run_step follows rfl still holds ran
    rw [Store.besides_of_gone fun name own => held.gone unopened own, CursorPhase.name?_ofBatch,
      done.besides named] at same
    refine ⟨u, ?_, names, same⟩
    show ((f (.ofBatch b)).run w₁).2.store = _
    rw [ran, left]

end RecordCursor

/-! ### Operations -/

namespace Database

variable {ρ : Type} [Record ρ] (db : Database)

theorem note_tidy (types : List RecordType) : (note types).Tidy := by
  unfold note
  split
  · exact .done _
  · exact .aside nofun

theorem assignKey_tidy (r : ρ) : (db.assignKey r).Tidy := by
  unfold assignKey
  split
  · split
    · exact .bind (.aside nofun) fun _ => .done _
    · exact .done _
  · exact .done _

theorem hookAndEncode_tidy (name : String) (isNew : Bool) (context : SaveContext) (r : ρ) :
    (db.hookAndEncode name isNew context r).Tidy := by
  refine .bind (.aside nofun) fun now => ?_
  split
  · exact .done _
  · exact .bind (note_tidy _) fun _ => .done _

theorem write_tidy (target : SaveTarget) (kind : RecordKind) (isNew : Bool) (name : String) (document : Document) :
    (target.write kind isNew name document).Tidy := by
  unfold SaveTarget.write
  split <;> exact .request rfl

theorem persist_tidy (target : SaveTarget) (name : String) (context : SaveContext) (r : ρ) :
    (db.persist target name context r).Tidy := by
  refine .bind ?_ fun r => .bind (db.hookAndEncode_tidy name _ context r) ?_
  · split
    · exact db.assignKey_tidy r
    · exact .done _
  · rintro ⟨e | document, r⟩
    · exact .done _
    · refine .bind (write_tidy target _ _ name document) ?_
      rintro (e | header) <;> exact .done _

end Database

namespace LockBackend

theorem prepare_tidy (collection : String) : (prepare collection).Tidy := by
  have indexed (index : IndexSpec) :
      (Program.requestOr (Program.request (.ensureIndex collection index)) ClientError.store).Tidy :=
    .requestOr (.request rfl) _
  refine .andThen (.requestOr (.request rfl) _) fun found => ?_
  split
  · exact indexed _
  · refine .bind (.request rfl) fun created => ?_
    split
    · exact indexed _
    · split
      · exact indexed _
      · exact .done _

theorem tryInsert_tidy (collection name : String) : (tryInsert collection name).Tidy := by
  refine .bind (.aside nofun) fun now => .bind (.request rfl) fun inserted => ?_
  split
  · exact .done _
  · split <;> exact .done _

theorem insertWithin_tidy (collection name : String) (tries : Nat) : (insertWithin collection name tries).Tidy := by
  induction tries with
  | zero => exact .stalled
  | succ tries ih =>
    refine .bind (tryInsert_tidy collection name) fun result => ?_
    split
    · exact ih
    · exact .done _

theorem acquire_tidy (b : LockBackend) (name : String) (block : Bool) : (b.acquire name block).Tidy := by
  cases b with
  | inProcess => exact .bind (.aside nofun) fun _ => .done _
  | overStore collection pollDelay =>
    cases block with
    | true => exact .bind (.aside nofun) fun tries => insertWithin_tidy collection name tries
    | false => exact tryInsert_tidy collection name

theorem deleteAll_tidy (collection : String) (documents : List LockDocument) :
    (deleteAll collection documents).Tidy := by
  induction documents with
  | nil => exact .done _
  | cons document rest ih =>
    unfold deleteAll
    split
    · exact ih
    · exact .andThen (.requestOr (.request rfl) _) fun _ => ih

/-- Giving a lock back reads the documents of the lock to the end before it deletes them. -/
theorem release_tidy (b : LockBackend) (name : String) : (b.release name).Tidy := by
  cases b with
  | inProcess => exact .bind (.aside nofun) fun _ => .done _
  | overStore collection pollDelay =>
    dsimp only [release]
    rw [← Program.andThen_assoc]
    exact .andThen (RecordCursor.toListAndDrop_consumes.tidy _ _) (deleteAll_tidy collection)

end LockBackend

namespace LockGuard

theorem drop_tidy (g : LockGuard) : g.drop.Tidy := by
  unfold drop
  split
  · exact .done _
  · exact .bind (g.backend.release_tidy g.name) fun _ => .done _

end LockGuard

namespace RecordCollection

variable {ρ α : Type} (c : RecordCollection ρ)

/-- A search is tidy if its results are used up. -/
theorem find_tidy (options : Find.Options) {f : RecordCursor ρ → Program (Except ClientError α)}
    (consumes : RecordCursor.Consumes f) : ((c.find options).andThen f).Tidy := by
  unfold find
  rw [Program.andThen, Program.bind_assoc]
  refine .bind (Database.note_tidy _) fun noted => ?_
  split
  · exact .done _
  · show (((c.ask _).mapOk _).andThen f).Tidy
    rw [Program.mapOk_andThen]
    exact consumes.tidy _ _

theorem acquire_tidy (key : String) : (c.acquire key).Tidy := by
  unfold acquire
  split
  · exact .done _
  · exact .andThen (LockBackend.acquire_tidy _ _ _) fun _ => .done _

theorem truncateCollection_tidy (ignoreMissing : Bool) : (c.truncateCollection ignoreMissing).Tidy := by
  refine .bind (.request rfl) fun truncated => ?_
  split
  · exact .done _
  · split <;> exact .done _

variable [Record ρ]

theorem findOne_tidy (filters : Find.Filters) (sort : List Find.SortKey) (raiseOnMultiple : Bool) :
    (c.findOne filters sort raiseOnMultiple).Tidy := by
  dsimp only [findOne]
  rw [← Program.andThen_assoc]
  exact .andThen (c.find_tidy _ RecordCursor.toListAndDrop_consumes) fun _ => .done _

theorem all_tidy (limit skip : Option Nat) : (c.all limit skip).Tidy := by
  unfold all
  split
  · exact c.find_tidy _ RecordCursor.toListAndDrop_consumes
  · exact c.find_tidy _ (RecordCursor.toListAndDrop_consumes.skip _)

theorem load_tidy (key : String) : (c.load key).Tidy := by
  refine .andThen (.requestOr (.request rfl) _) fun found => ?_
  split <;> exact .done _

theorem reload_tidy (r : ρ) : (c.reload r).Tidy := by
  unfold reload
  split
  · exact .done _
  · refine .bind (c.load_tidy _) fun loaded => ?_
    split <;> exact .done _

theorem lockAndLoad_tidy (key : String) : (c.lockAndLoad key).Tidy := by
  refine .andThen (c.acquire_tidy key) fun guard => .bind (c.load_tidy key) fun loaded => ?_
  split
  · exact .bind guard.drop_tidy fun _ => .done _
  · exact .done _

theorem lockAndReload_tidy (r : ρ) : (c.lockAndReload r).Tidy := by
  unfold lockAndReload
  split
  · exact .done _
  · refine .bind (c.acquire_tidy _) fun acquired => ?_
    split
    · exact .done _
    · refine .bind (c.reload_tidy r) fun reloaded => ?_
      split
      · exact .bind (LockGuard.drop_tidy _) fun _ => .done _
      · exact .done _

theorem update_tidy (key : String) (context : SaveContext) (change : ρ → ρ) : (c.update key context change).Tidy := by
  refine .andThen (c.lockAndLoad_tidy key) fun locked => .bind (c.db.persist_tidy _ _ context _) fun saved => ?_
  split
  · exact .bind locked.2.drop_tidy fun _ => .done _
  · exact .mapOk (LockBackend.release_tidy _ _) _

theorem delete_tidy (r : ρ) (ignoreMissing : Bool) : (c.delete r ignoreMissing).Tidy := by
  unfold delete
  split
  · exact .done _
  · exact .requestOr (.request rfl) _

theorem encodeAll_tidy (context : SaveContext) (records : List ρ) : (c.encodeAll context records).Tidy := by
  induction records with
  | nil => exact .done _
  | cons r rest ih =>
    refine .bind (c.db.assignKey_tidy r) fun r => .bind (c.db.hookAndEncode_tidy _ _ context r) fun encoded => ?_
    split
    · exact .done _
    · exact .bind ih fun _ => .done _

theorem insertMany_tidy (context : SaveContext) (records : List ρ) : (c.insertMany context records).Tidy := by
  refine .bind (c.encodeAll_tidy context records) fun encoded => ?_
  split
  · exact .done _
  · refine .bind (.request rfl) fun results => ?_
    split
    · split <;> exact .done _
    · exact .done _

theorem ensureCollection_tidy : c.ensureCollection.Tidy := by
  refine .andThen (.requestOr (.request rfl) _) fun found => ?_
  split
  · exact .done _
  · refine .bind (.request rfl) fun created => ?_
    split <;> exact .done _

end RecordCollection

/-- The operations of collections and locks, but for the search that hands out a record cursor. -/
inductive PlainOperation : {α : Type} → Program α → Prop where
  | save {ρ : Type} [Record ρ] (c : RecordCollection ρ) (context : SaveContext) (r : ρ) :
      PlainOperation (c.save context r)
  | load {ρ : Type} [Record ρ] (c : RecordCollection ρ) (key : String) : PlainOperation (c.load key)
  | reload {ρ : Type} [Record ρ] (c : RecordCollection ρ) (r : ρ) : PlainOperation (c.reload r)
  | delete {ρ : Type} [Record ρ] (c : RecordCollection ρ) (r : ρ) (ignoreMissing : Bool) :
      PlainOperation (c.delete r ignoreMissing)
  | findOne {ρ : Type} [Record ρ] (c : RecordCollection ρ) (filters : Find.Filters) (sort : List Find.SortKey)
      (raiseOnMultiple : Bool) : PlainOperation (c.findOne filters sort raiseOnMultiple)
  | all {ρ : Type} [Record ρ] (c : RecordCollection ρ) (limit skip : Option Nat) : PlainOperation (c.all limit skip)
  | keys {ρ : Type} (c : RecordCollection ρ) : PlainOperation c.keys
  | ids {ρ : Type} (c : RecordCollection ρ) : PlainOperation c.ids
  | getMany {ρ : Type} [Record ρ] (c : RecordCollection ρ) (keys : List String) : PlainOperation (c.getMany keys)
  | insertMany {ρ : Type} [Record ρ] (c : RecordCollection ρ) (context : SaveContext) (records : List ρ) :
      PlainOperation (c.insertMany context records)
  | count {ρ : Type} (c : RecordCollection ρ) : PlainOperation c.count
  | ensureCollection {ρ : Type} [Record ρ] (c : RecordCollection ρ) : PlainOperation c.ensureCollection
  | ensureIndex {ρ : Type} (c : RecordCollection ρ) (index : IndexSpec) : PlainOperation (c.ensureIndex index)
  | deleteCollection {ρ : Type} (c : RecordCollection ρ) (ignoreMissing : Bool) :
      PlainOperation (c.deleteCollection ignoreMissing)
  | truncateCollection {ρ : Type} (c : RecordCollection ρ) (ignoreMissing : Bool) :
      PlainOperation (c.truncateCollection ignoreMissing)
  | acquire {ρ : Type} (c : RecordCollection ρ) (key : String) : PlainOperation (c.acquire key)
  | lockAndLoad {ρ : Type} [Record ρ] (c : RecordCollection ρ) (key : String) : PlainOperation (c.lockAndLoad key)
  | lockAndReload {ρ : Type} [Record ρ] (c : RecordCollection ρ) (r : ρ) : PlainOperation (c.lockAndReload r)
  | update {ρ : Type} [Record ρ] (c : RecordCollection ρ) (key : String) (context : SaveContext) (change : ρ → ρ) :
      PlainOperation (c.update key context change)
  | createBackend (collection : String) : PlainOperation (LockBackend.create collection)
  | acquireLock (l : NamedLock) : PlainOperation l.acquire
  | tryAcquireLock (l : NamedLock) : PlainOperation l.tryAcquire
  | releaseGuard (g : LockGuard) : PlainOperation g.release
  | dropGuard (g : LockGuard) : PlainOperation g.drop

theorem PlainOperation.tidy {α : Type} {p : Program α} (operation : PlainOperation p) : p.Tidy := by
  cases operation with
  | save c context r => exact c.db.persist_tidy _ _ context r
  | load c key => exact c.load_tidy key
  | reload c r => exact c.reload_tidy r
  | delete c r ignoreMissing => exact c.delete_tidy r ignoreMissing
  | findOne c filters sort raiseOnMultiple => exact c.findOne_tidy filters sort raiseOnMultiple
  | all c limit skip => exact c.all_tidy limit skip
  | keys | count | ensureIndex | deleteCollection => exact .requestOr (.request rfl) _
  | ids => exact .mapOk (.requestOr (.request rfl) _) _
  | getMany => exact .andThen (.requestOr (.request rfl) _) fun _ => .done _
  | insertMany c context records => exact c.insertMany_tidy context records
  | ensureCollection c => exact c.ensureCollection_tidy
  | truncateCollection c ignoreMissing => exact c.truncateCollection_tidy ignoreMissing
  | acquire c key => exact c.acquire_tidy key
  | lockAndLoad c key => exact c.lockAndLoad_tidy key
  | lockAndReload c r => exact c.lockAndReload_tidy r
  | update c key context change => exact c.update_tidy key context change
  | createBackend collection => exact .mapOk (LockBackend.prepare_tidy collection) _
  | acquireLock => exact .andThen (LockBackend.acquire_tidy _ _ _) fun _ => .done _
  | tryAcquireLock => exact .mapOk (LockBackend.acquire_tidy _ _ _) _
  | releaseGuard g => exact g.backend.release_tidy g.name
  | dropGuard g => exact g.drop_tidy

end RecordStore
