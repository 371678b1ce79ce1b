import RecordStore.Client.Graph
import RecordStore.Proofs.Client.Turn
import RecordStore.Proofs.Record.ReadBack
import RecordStore.Proofs.Store.Atomicity
import RecordStore.Proofs.Store.Current

/-!
# Saving and loading

A save that succeeds has stored what the hook left of the record, under the header of the write (`Saved`), whether it
inserted or replaced, in the collection or through a graph. What is loaded afterwards is read from that document.
-/

namespace RecordStore

theorem Store.ok_of_after {α : Type} {s t : Store} {check : Except Refusal Unit} {next : Store → Outcome α} {a : α}
    (ok : s.after check next = (.ok a, t)) : next s = (.ok a, t) := by
  rcases s.after_cases check next with ⟨r, -, refused⟩ | ⟨-, passed⟩
  · cases ok.symm.trans refused
  · exact passed.symm.trans ok

section Run

variable {w w' : World} {s : Store}

theorem Store.ok_of_reply {outcome : Outcome Header} {h : Header}
    (ran : (some (reply outcome).1, { w with store := ⟨(reply outcome).2, []⟩ }) = (some (Except.ok h), w')) :
    ∃ t, w'.store = ⟨t, []⟩ ∧ outcome = (.ok h, t) := by
  obtain ⟨answered, rfl⟩ := Prod.mk.inj ran
  exact ⟨outcome.2, rfl, Store.eq_of_reply (Option.some.inj answered)⟩

namespace SaveTarget

/-- What a write has stored: a new document, or one in the place of an old one. -/
def Stores (isNew : Bool) (s : Store) (name : String) (document : Document) (h : Header) (t : Store) : Prop :=
  if isNew then s.StoresNew name document h t else s.StoresOver name document h t

theorem write_run {target : SaveTarget} {kind : RecordKind} {isNew : Bool} {name : String} {document : Document}
    {h : Header} (plain : w.store = ⟨s, []⟩)
    (ran : (target.write kind isNew name document).run w = (some (.ok h), w')) :
    ∃ t, w'.store = ⟨t, []⟩ ∧ Stores isNew s name document h t := by
  cases isNew with
  | true =>
    have inserted : ∃ t, w'.store = ⟨t, []⟩ ∧ s.insert name document = (.ok h, t) := by
      cases target with
      | collection => exact Store.ok_of_reply ((Program.request_run plain _).symm.trans ran)
      | graph g =>
        cases kind <;>
          obtain ⟨t, left, ok⟩ := Store.ok_of_reply ((Program.request_run plain _).symm.trans ran) <;>
          exact ⟨t, left, Store.ok_of_after ok⟩
    obtain ⟨t, left, ok⟩ := inserted
    exact ⟨t, left, Store.storesNew_of_insert ok⟩
  | false =>
    have replaced : ∃ t, w'.store = ⟨t, []⟩ ∧ s.replace name document = (.ok h, t) := by
      cases target with
      | collection => exact Store.ok_of_reply ((Program.request_run plain _).symm.trans ran)
      | graph g =>
        cases kind <;>
          obtain ⟨t, left, ok⟩ := Store.ok_of_reply ((Program.request_run plain _).symm.trans ran) <;>
          exact ⟨t, left, Store.ok_of_after ok⟩
    obtain ⟨t, left, ok⟩ := replaced
    exact ⟨t, left, Store.storesOver_of_replace ok⟩

end SaveTarget

namespace Database

variable {ρ : Type} [Record ρ] {db : Database}

theorem note_run (types : List RecordType) (w : World) :
    (note types).run w = (some (), { w with noted := World.addAll w.noted (types.map .collection) }) := by
  cases types <;> rfl

def keyed (db : Database) (keysMade : Nat) (r : ρ) : ρ :=
  if Record.isPersisted r then r
  else
    match db.config.keyGenerator with
    | some key => if Record.kind ρ = .vertex && (Record.key r).isNone then Record.withKey r (key keysMade) else r
    | none => r

def takesKey (db : Database) (r : ρ) : Bool :=
  db.config.keyGenerator.isSome && (Record.kind ρ = .vertex && (Record.key r).isNone)

theorem assignKey_new (db : Database) {r : ρ} (new : Record.isPersisted r = false) (w : World) :
    (db.assignKey r).run w = (some (db.keyed w.keysMade r),
      { w with keysMade := if db.takesKey r then w.keysMade + 1 else w.keysMade }) := by
  unfold assignKey keyed takesKey
  rw [if_neg (by simp [new])]
  cases db.config.keyGenerator with
  | none => rfl
  | some key =>
    simp only [Option.isSome_some, Bool.true_and]
    split <;> rfl

theorem assignKey_run (db : Database) (r : ρ) (w : World) :
    ∃ made, (if !Record.isPersisted r then db.assignKey r else .done r).run w =
      (some (db.keyed w.keysMade r), { w with keysMade := made }) := by
  cases new : Record.isPersisted r with
  | true =>
    unfold keyed
    rw [new]
    exact ⟨w.keysMade, rfl⟩
  | false => exact ⟨_, db.assignKey_new new w⟩

/-- What the hook leaves of a record, the document that is made of it, and what is noted meanwhile. -/
theorem hookAndEncode_run {name : String} {isNew : Bool} {context : SaveContext} {r r' : ρ} {document : Document}
    (ran : (db.hookAndEncode name isNew context r).run w = (some (.ok document, r'), w')) :
    Record.beforeSave isNew context w.clock r = (.ok (), r') ∧ Record.document r' db.directory name = .ok document ∧
      w'.store = w.store := by
  obtain ⟨now, w₁, told, ran⟩ := Program.run_bind_some ran
  cases told
  split at ran
  · cases ran
  · rename_i ready approved
    obtain ⟨⟨⟩, w₂, noted, ran⟩ := Program.run_bind_some ran
    cases noted.symm.trans (note_run (Record.asked ready db.directory) w)
    cases made : Record.document ready db.directory name with
    | error e =>
      rw [made] at ran
      cases ran
    | ok d =>
      rw [made] at ran
      cases ran
      exact ⟨approved, made, rfl⟩

theorem persist_run {target : SaveTarget} {name : String} {context : SaveContext} {r r' : ρ}
    (plain : w.store = ⟨s, []⟩) (ran : (db.persist target name context r).run w = (some (.ok (), r'), w')) :
    ∃ ready document h t,
      Record.beforeSave (!Record.isPersisted r) context w.clock (db.keyed w.keysMade r) = (.ok (), ready) ∧
      Record.document ready db.directory name = .ok document ∧ r' = Record.restamp ready (.ofHeader h) ∧
      w'.store = ⟨t, []⟩ ∧ SaveTarget.Stores (!Record.isPersisted r) s name document h t := by
  obtain ⟨r₁, w₁, assigned, ran⟩ := Program.run_bind_some ran
  obtain ⟨made, assigned'⟩ := db.assignKey_run r w
  cases assigned.symm.trans assigned'
  obtain ⟨⟨encoded, ready⟩, w₂, hooked, ran⟩ := Program.run_bind_some ran
  cases encoded with
  | error e => cases ran
  | ok document =>
    obtain ⟨approved, made, same⟩ := hookAndEncode_run hooked
    obtain ⟨answer, w₃, written, ran⟩ := Program.run_bind_some ran
    cases answer with
    | error e => cases ran
    | ok h =>
      obtain ⟨t, left, stores⟩ := SaveTarget.write_run (same.trans plain) written
      cases ran
      exact ⟨ready, document, h, t, approved, made, rfl, left, stores⟩

end Database

namespace RecordCollection

section Saved

variable {ρ : Type} [Record ρ] {c : RecordCollection ρ} {context : SaveContext} {r r' : ρ}

/-- The ways of saving a record: in its collection, or through a graph of the same database. -/
inductive Saves (c : RecordCollection ρ) (context : SaveContext) (r : ρ) :
    Program (Except ClientError Unit × ρ) → Prop where
  | alone : Saves c context r (c.save context r)
  | through (g : RecordGraph) (same : g.db = c.db) (named : c.name = c.db.config.names.collection (Record.type ρ)) :
    Saves c context r (g.save context r)

/-- What a save has stored. The record that is ready to be written has these attributes, and the store stood at the
first state and stands at the second one. -/
structure Saved (c : RecordCollection ρ) (isNew : Bool) (ready : ρ) (fields : Document) (s : Store) (h : Header)
    (stored : Document) (t : Store) : Prop where
  encoded : Record.fields ready = .ok fields
  header : h = ⟨Store.idOf c.name h.key, h.key, Store.revision (s.revCounter + 1)⟩
  found : t.document? c.name h.key = some stored
  /-- Both ends of an edge stand for an identifier. -/
  resolved : (Record.names? ready c.db.directory).isSome = (Record.ends? ready).isSome
  shown : ∀ field, stored.get? field = (Record.written fields h (Record.names? ready c.db.directory)).get? field
  exact : Table.Ascending fields → stored = Record.written fields h (Record.names? ready c.db.directory)
  /-- The key is the record's own. Only if it has none, the store has made one. -/
  key : h.key = (Record.key ready).getD (toString t.keyCounter)
  new : isNew = true → s.document? c.name h.key = none
  /-- What was replaced had the record's own revision. -/
  current : isNew = false → ∃ before, s.document? c.name h.key = some before ∧
    ∀ rev, Record.rev? ready = some rev → before.text? Attribute.rev = some rev

theorem saved_of_stores {isNew : Bool} {ready : ρ} {document : Document} {h : Header} {t : Store}
    (made : Record.document ready c.db.directory c.name = .ok document)
    (stores : SaveTarget.Stores isNew s c.name document h t) :
    ∃ fields stored, c.Saved isNew ready fields s h stored t := by
  obtain ⟨fields, encoded, resolved, composed⟩ := Record.document_ok made
  have keyed := Record.get?_key_made composed
  obtain ⟨stored, key, new, current⟩ : s.Stores c.name document h t ∧
      h.key = (Record.key ready).getD (toString t.keyCounter) ∧ (isNew = true → s.document? c.name h.key = none) ∧
      (isNew = false → ∃ before, s.document? c.name h.key = some before ∧
        ∀ rev, Record.rev? ready = some rev → before.text? Attribute.rev = some rev) := by
    cases isNew with
    | true =>
      have stores : s.StoresNew c.name document h t := stores
      refine ⟨stores.toStores, ?_, fun _ => stores.free, nofun⟩
      have brought := stores.key
      rw [keyed] at brought
      cases own : Record.key ready with
      | none =>
        rw [own] at brought
        rcases brought with given | ⟨-, made⟩
        · cases given
        · exact made
      | some key =>
        rw [own] at brought
        rcases brought with given | ⟨absent | null, -⟩
        · exact (Value.string.inj (Option.some.inj given)).symm
        · cases absent
        · cases null
    | false =>
      have stores : s.StoresOver c.name document h t := stores
      refine ⟨stores.toStores, ?_, nofun, fun _ => ?_⟩
      · have given := Document.get?_of_text? stores.key
        rw [keyed] at given
        obtain ⟨key, own, same⟩ := Option.map_eq_some_iff.mp given
        rw [own, Option.getD_some, Value.string.inj same]
      · obtain ⟨before, found, current⟩ := stores.current
        refine ⟨before, found, fun rev own => ?_⟩
        rw [Record.presentedRev?_made composed, own] at current
        simpa [Store.isStale] using current
  have header := stored.header
  rw [header]
  exact ⟨fields, _, encoded, rfl, stored.stored, resolved, Record.get?_stamp composed _ _ _,
    fun ascending => Record.stamp_eq composed ascending _ _ _, key, new, current⟩

/-- Every way of saving ends in the same steps, with names noted before them at most. -/
theorem Saves.persist {p : Program (Except ClientError Unit × ρ)} (saves : c.Saves context r p) (w : World) :
    ∃ target noted, p.run w = (c.db.persist target c.name context r).run { w with noted := noted } := by
  cases saves with
  | alone => exact ⟨.collection, w.noted, rfl⟩
  | through g same named =>
    refine ⟨.graph g.name, World.addAll w.noted [.collection (Record.type ρ)], ?_⟩
    rw [RecordGraph.save, Database.collection, Program.bind_assoc, Program.run_bind, Database.note_run, named, ← same]
    rfl

/-- What loading the record with a key comes to. -/
def loaded (c : RecordCollection ρ) (key : String) (s : Store) : Except ClientError ρ :=
  match s.find c.name key with
  | .error refusal => .error (refusal.error.translate .collection c.name)
  | .ok none => .error (.modelNotFound (.noSuchKey (Record.typeName ρ) key))
  | .ok (some document) => Record.ofValue (.object document)

theorem loaded_congr {s t : Store} (same : t.collections.get? c.name = s.collections.get? c.name) (key : String) :
    c.loaded key t = c.loaded key s := by
  simp only [loaded, Store.find, Store.collection, same]

theorem loaded_of_document? {s : Store} {key : String} {stored : Document}
    (found : s.document? c.name key = some stored) : c.loaded key s = Record.ofValue (.object stored) := by
  obtain ⟨l, present, here⟩ := Option.bind_eq_some_iff.mp found
  simp only [loaded, Store.find, Store.collection, present, Except.map, here]

theorem load_run {s : Store} (plain : w.store = ⟨s, []⟩) (key : String) :
    (c.load key).run w = (some (c.loaded key s), w) := by
  have answered := Program.request_run plain (.get c.name key)
  simp only [Store.answer, Store.look] at answered
  rw [load, ask, Program.andThen, Program.requestOr, Program.run_bind, Program.run_bind, answered, loaded]
  simp only [← plain]
  rcases s.find c.name key with refusal | _ | document <;> rfl

end Saved

/-- A save that succeeds has stored the record that the hook has left. -/
theorem saved_of_run {ρ : Type} [Record ρ] {c : RecordCollection ρ} {context : SaveContext} {r r' : ρ}
    {p : Program (Except ClientError Unit × ρ)} (plain : w.store = ⟨s, []⟩) (saves : c.Saves context r p)
    (ran : p.run w = (some (.ok (), r'), w')) :
    ∃ ready fields h stored t,
      Record.beforeSave (!Record.isPersisted r) context w.clock (c.db.keyed w.keysMade r) = (.ok (), ready) ∧
      r' = Record.restamp ready (.ofHeader h) ∧ w'.store = ⟨t, []⟩ ∧
      c.Saved (!Record.isPersisted r) ready fields s h stored t := by
  obtain ⟨target, noted, persisted⟩ := saves.persist w
  obtain ⟨ready, document, h, t, approved, made, stamped, left, stores⟩ :=
    Database.persist_run (w := { w with noted := noted }) plain (persisted ▸ ran)
  obtain ⟨fields, stored, saved⟩ := saved_of_stores made stores
  exact ⟨ready, fields, h, stored, t, approved, stamped, left, saved⟩

open Sample in
/-- What was saved of a sample record is read back under its key. -/
theorem Saved.read_back {k : Kind} {c : RecordCollection k.Rec} {isNew : Bool} {ready : k.Rec}
    {fields stored : Document} {h : Header} {t : Store} (saved : c.Saved isNew ready fields s h stored t) :
    ∃ loaded : k.Rec, Record.ofValue (.object stored) = .ok loaded ∧ Record.stamp loaded = .ofHeader h ∧
      (k ≠ .raw → loaded = k.settle c.db.directory (Record.restamp ready (.ofHeader h))) := by
  obtain ⟨loaded, decoded, settled⟩ : ∃ loaded : k.Rec, Record.decode (.object stored) = some loaded ∧
      (k ≠ .raw → loaded = k.settle c.db.directory (Record.restamp ready (.ofHeader h))) := by
    by_cases raw : k = .raw
    · subst raw
      exact ⟨_, rfl, absurd rfl⟩
    · exact ⟨_, Kind.decode_written raw saved.encoded saved.resolved saved.shown, fun _ => rfl⟩
  have read : Record.ofValue (.object stored) = .ok loaded := by rw [Record.ofValue, decoded]
  have stamped := Record.stamp_ofValue read (Record.text?_key_written saved.shown) (Record.text?_rev_written saved.shown)
  exact ⟨loaded, read, stamped, settled⟩

/-- Saving and loading: if a save succeeds, what the record's hook has left of it is stored under its key with nothing
but the attributes of the store set to those of this write, and a record of a sample type is loaded again as it was
saved, the ends of an edge as the identifiers that they stand for. Raw records, which hold whole documents, at least
keep their key and revision, whatever their values say of these. -/
theorem saves_load_back (plain : w.store = ⟨s, []⟩) :
    (∀ {ρ : Type} [Record ρ] {c : RecordCollection ρ} {context : SaveContext} {r r' : ρ}
      {p : Program (Except ClientError Unit × ρ)}, c.Saves context r p → p.run w = (some (.ok (), r'), w') →
      ∃ ready fields h stored t,
        Record.beforeSave (!Record.isPersisted r) context w.clock (c.db.keyed w.keysMade r) = (.ok (), ready) ∧
        r' = Record.restamp ready (.ofHeader h) ∧ w'.store = ⟨t, []⟩ ∧
        c.Saved (!Record.isPersisted r) ready fields s h stored t) ∧
    ∀ {k : Sample.Kind} {c : RecordCollection k.Rec} {context : SaveContext} {r r' : k.Rec}
      {p : Program (Except ClientError Unit × k.Rec)}, c.Saves context r p → p.run w = (some (.ok (), r'), w') →
      ∃ key loaded, Record.key r' = some key ∧ (c.load key).run w' = (some (.ok loaded), w') ∧
        Record.stamp loaded = Record.stamp r' ∧
        (Record.names? r' c.db.directory).isSome = (Record.ends? r').isSome ∧
        (k ≠ .raw → loaded = k.settle c.db.directory r') := by
  refine ⟨saved_of_run plain, fun {k c context r r' p} saves ran => ?_⟩
  obtain ⟨ready, fields, h, stored, t, -, rfl, left, saved⟩ := saved_of_run plain saves ran
  obtain ⟨loaded, read, stamped, settled⟩ := saved.read_back
  have stamp : Record.stamp (Record.restamp ready (.ofHeader h)) = .ofHeader h := k.stamp_restamp ready _
  have ends : Record.ends? (Record.restamp ready (.ofHeader h)) = Record.ends? ready := k.ends?_restamp ready _
  refine ⟨h.key, loaded, ?_, ?_, stamped.trans stamp.symm, ?_, settled⟩
  · rw [Record.key, stamp]
    rfl
  · rw [load_run left, loaded_of_document? saved.found, read]
  · rw [Record.names?, ends]
    exact saved.resolved

theorem run_of_isOk {α β : Type} {p : Program (Except ClientError Unit × α)} {f : α → β} {b : β}
    (ran : (p.run w).1.map (fun (answer, a) => (answer.isOk, f a)) = some (true, b)) :
    ∃ a w', p.run w = (some (.ok (), a), w') ∧ f a = b := by
  obtain ⟨⟨answer, a⟩, found, same⟩ := Option.map_eq_some_iff.mp ran
  obtain ⟨ok, rfl⟩ := Prod.mk.inj same
  cases answer with
  | error e => cases ok
  | ok => exact ⟨a, (p.run w).2, Prod.ext found rfl, rfl⟩

/-- An edge between shared vertices that is saved through a graph, and a raw record whose value claims another key. -/
theorem link_and_raw_read_back :
    let db : Database :=
      { config := { names := { collectionRule := id } }, shared := fun _ => some ⟨Record.type Sample.Person, some "7"⟩ }
    let s := (Store.empty 1).afterAll [.createGraph (Sample.mixedGraph.resolve db.config.names),
      .insert "Person" [("_key", .string "7")]]
    let g : RecordGraph := ⟨db, Sample.mixedGraph, "mixed"⟩
    let e : Sample.Link := { ends := ⟨.shared 0, .id "Person/7"⟩, text := "t" }
    let raw : Sample.Raw := { value := .object [("_key", .string "8"), ("_rev", .string "r")] }
    ∃ (e' : Sample.Link) (raw' : Sample.Raw) (w₁ w₂ : World),
      (g.save [] e).run { store := ⟨s, []⟩ } = (some (.ok (), e'), w₁) ∧
      ((⟨db, "Link"⟩ : RecordCollection Sample.Link).load "1").run w₁ =
        (some (.ok { e' with ends := .named ("Person/7", "Person/7") }), w₁) ∧
      ((⟨db, "Raw"⟩ : RecordCollection Sample.Raw).save [] raw).run { store := ⟨s, []⟩ } = (some (.ok (), raw'), w₂) ∧
      ∃ loaded : Sample.Raw, ((⟨db, "Raw"⟩ : RecordCollection Sample.Raw).load "1").run w₂ = (some (.ok loaded), w₂) ∧
        loaded.stamp = ⟨some "1", "_r00000002"⟩ := by
  intro db s g e raw
  let links : RecordCollection Sample.Link := ⟨db, "Link"⟩
  let raws : RecordCollection Sample.Raw := ⟨db, "Raw"⟩
  have link : ((g.save [] e).run { store := ⟨s, []⟩ }).1.map (fun (answer, r) => (answer.isOk, id r)) =
      some (true, { e with stamp := ⟨some "1", "_r00000002"⟩ }) := by
    decide +kernel
  have value : ((raws.save [] raw).run { store := ⟨s, []⟩ }).1.map (fun (answer, r) => (answer.isOk, r.stamp)) =
      some (true, ⟨some "1", "_r00000002"⟩) := by
    decide +kernel
  obtain ⟨e', w₁, ranLink, rfl⟩ := run_of_isOk link
  obtain ⟨raw', w₂, ranRaw, stamped⟩ := run_of_isOk value
  have plain : ({ store := ⟨s, []⟩ } : World).store = ⟨s, []⟩ := rfl
  obtain ⟨key, loaded, own, read, -, -, same⟩ :=
    (saves_load_back plain).2 (k := Sample.Kind.link) (c := links) (.through g rfl (by decide +kernel)) ranLink
  obtain ⟨key', loaded', own', read', kept, -, -⟩ :=
    (saves_load_back plain).2 (k := Sample.Kind.raw) (c := raws) .alone ranRaw
  have stamp : Record.stamp (ρ := Sample.Raw) raw' = ⟨some "1", "_r00000002"⟩ := stamped
  obtain rfl : key = "1" := (Option.some.inj own).symm
  obtain rfl : key' = "1" := Option.some.inj (own'.symm.trans (congrArg Stamp.key stamp))
  refine ⟨_, raw', w₁, w₂, ranLink, ?_, ranRaw, loaded', read', kept.trans stamp⟩
  rw [read, same (by decide)]
  rfl

end RecordCollection

end Run

end RecordStore
