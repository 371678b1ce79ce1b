import RecordStore.Client.Errand
import RecordStore.Client.Owner
import RecordStore.Proofs.Client.Protocol
import RecordStore.Proofs.Client.Turn
import RecordStore.Proofs.Record.Stamp
import RecordStore.Proofs.Store.Atomicity
import RecordStore.Proofs.Store.Current

/-!
# Uses of a record

What each use of a record comes to, whatever the store answers, as long as the answers are credible: a header has a
revision, a document shows its key and its revision. A use that succeeds gives the record the stamp that the store has
reported (`Outcome.gained`); any other one leaves the stamp as it was, but for a key that was generated (`Keeps`).
-/

namespace RecordStore

/-! ### Credible answers -/

namespace Request

/-- Whether a request writes a document as a new one or over an old one, if it writes a single document. -/
def inserts? : Request → Option Bool
  | insert _ _ | insertVertex _ _ _ | insertEdge _ _ _ => some true
  | replace _ _ | replaceVertex _ _ _ | replaceEdge _ _ _ => some false
  | _ => none

/-- What can be expected of an answer of a store: headers have a revision, a stored document shows its key and its
revision, and a bulk insert is answered for each document. -/
def Credible : (r : Request) → r.Answer → Prop
  | get _ _, answer => ∀ document, answer = .ok (some document) →
    ∃ key rev, document.text? Attribute.key = some key ∧ document.text? Attribute.rev = some rev ∧ rev ≠ ""
  | insertMany _ documents, answers => answers.length = documents.length ∧
    ∀ h ∈ answers.filterMap Except.toOption, h.rev ≠ ""
  | r, answer => ∀ h ∈ r.headers answer, h.rev ≠ ""

end Request

namespace Call

/-- The stamp that a call reports: that of the document that was written or found. In a bulk insert it is the one at a
place. -/
def stamp? (place : Nat) : Call → Option Stamp
  | ⟨.get _ _, .ok (some document)⟩ => Stamp.ofDocument? document
  | ⟨.insertMany _ _, answers⟩ => answers[place]?.bind fun answer => answer.toOption.map .ofHeader
  | ⟨r, answer⟩ => (r.headers answer).head?.map .ofHeader

end Call

/-- The protocol of programs that get credible answers and do not stall. -/
def Protocol.credible : Protocol (List Call) := .recording Request.Credible fun _ => False

namespace Store

theorem length_insertMany (s : Store) (name : String) (documents : List Document) :
    (s.answer (.insertMany name documents)).1.length = documents.length := by
  induction documents generalizing s with
  | nil => rfl
  | cons document rest ih =>
    rw [insertMany_cons, List.length_cons, List.length_cons, ih]

theorem document?_of_answer_get {s : Store} {name key : String} {document : Document}
    (answered : (s.answer (.get name key)).1 = .ok (some document)) : s.document? name key = some document := by
  have found : (s.find name key).mapError Refusal.error = .ok (some document) := answered
  unfold Store.find Store.collection at found
  cases present : s.collections.get? name with
  | none =>
    rw [present] at found
    cases found
  | some c =>
    rw [present] at found
    exact document?_of_find? present (Except.ok.inj found)

theorem Traced.credible {log : List Write} {s : Store} (traced : Traced log s) (r : Request) :
    r.Credible (s.answer r).1 := by
  have headers : ∀ h ∈ r.headers (s.answer r).1, h.rev ≠ "" := by
    intro h listed
    obtain ⟨n, -, number⟩ := (traced.changes (s.answer_changes r)).numbered ((s.answer r).2.writeTo r.target h)
      (List.mem_append_right _ (List.mem_map_of_mem listed))
    have rev : h.rev = revision n := number
    exact rev ▸ revision_ne_empty n
  cases r with
  | get name key =>
    intro document answered
    obtain ⟨w, logged, stored⟩ := traced.write_of_document? (document?_of_answer_get answered)
    obtain ⟨n, -, number⟩ := traced.numbered w logged
    exact ⟨key, w.header.rev, stored.keyAttribute, stored.revAttribute, number ▸ revision_ne_empty n⟩
  | insertMany name documents => exact ⟨s.length_insertMany name documents, headers⟩
  | _ => exact headers

end Store

theorem FaultyStore.credible_lost {r : Request} {e : StoreError} {answer : r.Answer}
    (lost : substitute? r (.error e) = some answer) : r.Credible answer := by
  cases r with
  | get name key =>
    obtain rfl := Option.some.inj lost
    exact fun document found => by cases found
  | insertMany name documents =>
    obtain rfl := Option.some.inj lost
    exact ⟨List.length_map _, by simp [Except.toOption]⟩
  | insert | replace | insertVertex | insertEdge | replaceVertex | replaceEdge =>
    obtain rfl := Option.some.inj lost
    exact fun h listed => absurd listed List.not_mem_nil
  | _ => exact fun h listed => absurd listed List.not_mem_nil

/-! ### Stamps that are kept -/

section Programs

variable {ρ : Type} [Record ρ] {calls : List Call}

/-- A record has kept its stamp, except that a vertex without a key may have got a generated one. -/
structure Database.Keeps (db : Database) (r r' : ρ) : Prop where
  rev : Record.rev r' = Record.rev r
  key : Record.key r' = Record.key r ∨ Record.key r = none ∧ Record.kind ρ = .vertex ∧
    ∃ generate n, db.config.keyGenerator = some generate ∧ Record.key r' = some (generate n)

namespace Database

variable {db : Database} {r r' : ρ}

theorem Keeps.of_stamp (same : Record.stamp r' = Record.stamp r) : db.Keeps r r' :=
  ⟨congrArg Stamp.rev same, .inl (congrArg Stamp.key same)⟩

theorem Keeps.refl (db : Database) (r : ρ) : db.Keeps r r := .of_stamp rfl

theorem Keeps.stamp (keeps : db.Keeps r r') (keyed : Record.key r ≠ none) : Record.stamp r' = Record.stamp r := by
  rcases keeps.key with same | ⟨without, -⟩
  · exact Stamp.mk.injEq .. ▸ ⟨same, keeps.rev⟩
  · exact absurd without keyed

theorem Keeps.trans {r'' : ρ} (keeps : db.Keeps r r') (same : Record.stamp r'' = Record.stamp r') :
    db.Keeps r r'' := by
  have rev : Record.rev r'' = Record.rev r' := congrArg Stamp.rev same
  have key : Record.key r'' = Record.key r' := congrArg Stamp.key same
  exact ⟨rev.trans keeps.rev, key ▸ keeps.key⟩

variable [StampedRecord ρ]

theorem assignKey_follows (db : Database) (r : ρ) :
    (db.assignKey r).Follows .credible (fun later r' => later = calls ∧ db.Keeps r r') calls := by
  unfold assignKey
  split
  · rename_i generate generates
    split
    · rename_i keyless
      obtain ⟨vertex, without⟩ := Bool.and_eq_true_iff.mp keyless
      refine ⟨trivial, fun n _ => ⟨List.append_nil calls, ?_, .inr ⟨?_, ?_, generate, n, generates, ?_⟩⟩⟩
      · rw [Record.rev, Record.withKey, StampedRecord.stamp_restamp]
        rfl
      · exact Option.isNone_iff_eq_none.mp without
      · exact of_decide_eq_true vertex
      · rw [Record.key, Record.withKey, StampedRecord.stamp_restamp]
    · exact ⟨rfl, .refl db r⟩
  · exact ⟨rfl, .refl db r⟩

theorem hookAndEncode_follows (db : Database) (name : String) (isNew : Bool) (context : SaveContext) (r : ρ) :
    (db.hookAndEncode name isNew context r).Follows .credible
      (fun later a => later = calls ∧ Record.stamp a.2 = Record.stamp r) calls := by
  have told : (Program.ofAction .now).Follows .credible (fun later _ => later = calls) calls :=
    Program.aside_follows nofun
  refine .bind told ?_
  rintro later now rfl
  have stamped := LawfulRecord.stamp_beforeSave isNew context now r
  generalize Record.beforeSave isNew context now r = hooked at stamped ⊢
  obtain ⟨answer, ready⟩ := hooked
  cases answer with
  | error e => exact ⟨rfl, stamped⟩
  | ok => exact .bind (note_follows _) fun _ _ same => ⟨same, stamped⟩

end Database

/-! ### Writing -/

/-- What a request to write a single document comes to. -/
inductive Call.Answered (call : Call) : Except StoreError Header → Prop where
  | refused {e : StoreError} (failed : call.failed = true) : Answered call (.error e)
  | written {h : Header} (reported : ∀ place, call.stamp? place = some (.ofHeader h)) (numbered : h.rev ≠ "") :
    Answered call (.ok h)

theorem SaveTarget.write_follows (target : SaveTarget) (kind : RecordKind) (isNew : Bool) (name : String)
    (document : Document) :
    (target.write kind isNew name document).Follows .credible
      (fun later answer => ∃ call, later = calls ++ [call] ∧ call.request.inserts? = some isNew ∧ call.Answered answer)
      calls := by
  cases target <;> cases kind <;> cases isNew <;> refine ⟨trivial, fun answer credible => ?_⟩ <;> cases answer
  all_goals first
    | exact ⟨_, rfl, rfl, .refused rfl⟩
    | exact ⟨_, rfl, rfl, .written (fun _ => rfl) (credible _ List.mem_cons_self)⟩

/-- What saving a record comes to: nothing is asked, or one write is refused, or it is answered with a header. -/
inductive Database.Persisted (db : Database) (r : ρ) : List Call → Except ClientError Unit × ρ → Prop where
  | unasked {e : ClientError} {r' : ρ} (keeps : db.Keeps r r') : Persisted db r [] (.error e, r')
  | refused {call : Call} {e : ClientError} {r' : ρ} (way : call.request.inserts? = some (!Record.isPersisted r))
      (failed : call.failed = true) (keeps : db.Keeps r r') : Persisted db r [call] (.error e, r')
  | written {call : Call} {h : Header} {r' : ρ} (way : call.request.inserts? = some (!Record.isPersisted r))
      (reported : ∀ place, call.stamp? place = some (.ofHeader h)) (numbered : h.rev ≠ "")
      (stamped : Record.stamp r' = .ofHeader h) : Persisted db r [call] (.ok (), r')

theorem Database.persist_follows [StampedRecord ρ] (db : Database) (target : SaveTarget) (name : String)
    (context : SaveContext) (r : ρ) :
    (db.persist target name context r).Follows .credible (fun later a => db.Persisted r later a) [] := by
  have assigned : (if !Record.isPersisted r then db.assignKey r else .done r).Follows .credible
      (fun later keyed => later = [] ∧ db.Keeps r keyed) [] := by
    split
    · exact db.assignKey_follows r
    · exact ⟨rfl, .refl db r⟩
  refine .bind assigned ?_
  rintro _ keyed ⟨rfl, keeps⟩
  refine .bind (db.hookAndEncode_follows name _ context keyed) ?_
  rintro _ ⟨answer, ready⟩ ⟨rfl, stamped⟩
  cases answer with
  | error e => exact .unasked (keeps.trans stamped)
  | ok document =>
    refine .bind (target.write_follows _ _ name document) ?_
    rintro _ _ ⟨call, rfl, way, answered⟩
    cases answered with
    | refused failed => exact .refused way failed (keeps.trans stamped)
    | written reported numbered => exact .written way reported numbered (StampedRecord.stamp_restamp ready _)

namespace RecordCollection

/-! ### Inserting several records -/

/-- A bulk insert encodes its records one after another, and asks nothing for that. -/
theorem encodeAll_follows [StampedRecord ρ] (c : RecordCollection ρ) (context : SaveContext) (records : List ρ) :
    (c.encodeAll context records).Follows .credible
      (fun later a => later = calls ∧ List.Forall₂ c.db.Keeps records a.2 ∧
        ∀ documents, a.1 = .ok documents → documents.length = records.length) calls := by
  induction records with
  | nil => exact ⟨rfl, .nil, fun documents done => (Except.ok.inj done) ▸ rfl⟩
  | cons r rest ih =>
    have untouched : List.Forall₂ c.db.Keeps rest rest := List.forall₂_same.mpr fun r _ => .refl c.db r
    unfold encodeAll
    refine .bind (c.db.assignKey_follows r) ?_
    rintro _ keyed ⟨rfl, keeps⟩
    refine .bind (c.db.hookAndEncode_follows c.name true context keyed) ?_
    rintro _ ⟨answer, ready⟩ ⟨rfl, stamped⟩
    cases answer with
    | error e =>
      refine ⟨rfl, .cons (keeps.trans stamped) untouched, fun documents done => ?_⟩
      cases done
    | ok document =>
      refine .bind ih ?_
      rintro _ ⟨encoded, others⟩ ⟨rfl, kept, lengths⟩
      refine ⟨rfl, .cons (keeps.trans stamped) kept, fun documents done => ?_⟩
      obtain ⟨more, all, rfl⟩ : ∃ more, encoded = .ok more ∧ document :: more = documents := by
        cases encoded with
        | error e => cases done
        | ok more => exact ⟨more, rfl, Except.ok.inj done⟩
      rw [List.length_cons, List.length_cons, lengths more all]

/-- Of the records of a bulk insert, those get a stamp whose documents were stored. -/
theorem getElem?_stampAll (records : List ρ) (results : List (Except StoreError Header)) (i : Nat) :
    (stampAll records results)[i]? = records[i]?.map fun r =>
      (results[i]?.bind Except.toOption).elim r fun h => Record.restamp r (.ofHeader h) := by
  induction records generalizing results i with
  | nil => cases results <;> rfl
  | cons r rest ih =>
    cases results with
    | nil => simp [stampAll]
    | cons result results =>
      cases result <;> cases i with
      | zero => rfl
      | succ i => exact ih results i

/-- What becomes of one record of a bulk insert: nothing is asked, or its document is refused or stored. -/
inductive Inserted (db : Database) (place : Nat) (r : ρ) : List Call → ρ → Prop where
  | unasked {r' : ρ} (keeps : db.Keeps r r') : Inserted db place r [] r'
  | refused {call : Call} {r' : ρ} (unreported : call.stamp? place = none) (keeps : db.Keeps r r') :
    Inserted db place r [call] r'
  | stored {call : Call} {h : Header} {r' : ρ} (reported : call.stamp? place = some (.ofHeader h))
      (numbered : h.rev ≠ "") (stamped : Record.stamp r' = .ofHeader h) : Inserted db place r [call] r'

theorem insertMany_follows [StampedRecord ρ] (c : RecordCollection ρ) (context : SaveContext) {records : List ρ}
    {place : Nat} {r : ρ} (listed : records[place]? = some r) :
    (c.insertMany context records).Follows .credible
      (fun later a => ∃ r', a.2[place]? = some r' ∧ Inserted c.db place r later r') [] := by
  unfold insertMany
  refine .bind (c.encodeAll_follows context records) ?_
  rintro _ ⟨encoded, ready⟩ ⟨rfl, kept, lengths⟩
  obtain ⟨inside, rfl⟩ := List.getElem?_eq_some_iff.mp listed
  have there : place < ready.length := kept.length_eq ▸ inside
  have keeps : c.db.Keeps records[place] ready[place] := kept.get inside there
  have found : ready[place]? = some ready[place] := List.getElem?_eq_getElem there
  cases encoded with
  | error e => exact ⟨_, found, .unasked keeps⟩
  | ok documents =>
    refine ⟨trivial, fun results credible => ?_⟩
    obtain ⟨complete, numbered⟩ := credible
    have complete : results.length = ready.length :=
      complete.trans ((lengths documents rfl).trans kept.length_eq)
    have stamped := getElem?_stampAll ready results place
    rw [found, Option.map_some] at stamped
    have own : results[place]? = some results[place] := List.getElem?_eq_getElem (complete ▸ there)
    have ends : Inserted c.db place records[place] [⟨.insertMany c.name documents, results⟩]
        ((results[place]?.bind Except.toOption).elim ready[place] fun h => Record.restamp ready[place] (.ofHeader h)) := by
      cases result : results[place] with
      | error e =>
        rw [own, result]
        refine .refused ?_ keeps
        simp [Call.stamp?, own, result, Except.toOption]
      | ok h =>
        rw [own, result]
        refine .stored (h := h) ?_ (numbered h ?_) (StampedRecord.stamp_restamp _ _)
        · simp [Call.stamp?, own, result, Except.toOption]
        · exact List.mem_filterMap.mpr ⟨results[place], List.getElem_mem _, by rw [result]; rfl⟩
    show Program.Follows _ _ (ite _ _ _) _
    rw [if_pos complete]
    cases RecordCollection.firstError results with
    | none => exact ⟨_, stamped, ends⟩
    | some e => exact ⟨_, stamped, ends⟩

/-! ### Loading again -/

/-- What becomes of a record that is loaded again: it stays as it is, or it becomes what was found. -/
inductive Reloaded (r : ρ) : List Call → Except ClientError Unit × ρ → Prop where
  | unasked {e : ClientError} : Reloaded r [] (.error e, r)
  | refused {call : Call} {e : ClientError} : Reloaded r [call] (.error e, r)
  | found {call : Call} {key rev : String} {r' : ρ} (reported : ∀ place, call.stamp? place = some ⟨some key, rev⟩)
      (numbered : rev ≠ "") (stamped : Record.stamp r' = ⟨some key, rev⟩) : Reloaded r [call] (.ok (), r')

theorem reload_follows [LawfulRecord ρ] (c : RecordCollection ρ) (r : ρ) :
    (c.reload r).Follows .credible (Reloaded r) [] := by
  unfold reload
  cases keyFor "reload" r with
  | error e => exact .unasked
  | ok key =>
    refine ⟨trivial, fun answer credible => ?_⟩
    cases answer with
    | error e => exact .refused
    | ok found =>
      cases found with
      | none => exact .refused
      | some document =>
        obtain ⟨own, rev, keyed, revised, numbered⟩ := credible document rfl
        have reported : Stamp.ofDocument? document = some ⟨some own, rev⟩ := Stamp.ofDocument?_of_texts keyed revised
        cases read : (Record.ofValue (.object document) : Except ClientError ρ) with
        | error e =>
          show Program.Follows .credible _ (Program.bind (.done (Record.ofValue (.object document))) _) _
          rw [read]
          exact .refused
        | ok loaded =>
          show Program.Follows .credible _ (Program.bind (.done (Record.ofValue (.object document))) _) _
          rw [read]
          exact .found (fun _ => reported) numbered (Record.stamp_ofValue read keyed revised)

end RecordCollection

end Programs

/-! ### Any use -/

namespace RecordUse

variable {ρ : Type} {calls : List Call}

def place : RecordUse ρ → Nat
  | insertAmong _ _ before _ => before.length
  | _ => 0

def reported? (use : RecordUse ρ) (calls : List Call) : Option Stamp :=
  calls.findSome? (Call.stamp? use.place)

/-- Whether the record has been written or found. A bulk insert that fails may still have stored this one of its
records. -/
def succeeds (use : RecordUse ρ) (calls : List Call) (answer : Except ClientError Unit) : Bool :=
  match use with
  | save _ _ | saveThrough _ _ | reload _ => answer.isOk
  | insertAmong _ _ _ _ => (use.reported? calls).isSome
  | delete _ _ | deleteThrough _ _ _ => false

variable [Record ρ]

structure Outcome (use : RecordUse ρ) (start : ρ) (calls : List Call) (answer : Except ClientError Unit)
    (finish : ρ) : Prop where
  gained : use.succeeds calls answer = true → ∃ key rev, use.reported? calls = some ⟨some key, rev⟩ ∧
    Record.stamp finish = ⟨some key, rev⟩ ∧ rev ≠ ""
  kept : use.succeeds calls answer = false → use.db.Keeps start finish
  /-- A record that was never written is inserted, another one replaced. -/
  way : use.saves = true → ∀ call ∈ calls, call.request.inserts? = some (!Record.isPersisted start)
  refused : use.saves = true → answer.isOk = false → ∀ call ∈ calls, call.failed = true
  reloads : ∀ c, use = .reload c → answer.isOk = false → finish = start

theorem outcome_of_persisted (use : RecordUse ρ) (saves : use.saves = true) {start : ρ} {calls : List Call}
    {a : Except ClientError Unit × ρ} (persisted : use.db.Persisted start calls a) :
    use.Outcome start calls a.1 a.2 := by
  have succeeds : ∀ calls answer, use.succeeds calls answer = answer.isOk := by
    intro calls answer
    cases use <;> first | rfl | cases saves
  have reloads : ∀ c, use = .reload c → a.1.isOk = false → a.2 = start := by
    rintro c rfl
    cases saves
  cases persisted with
  | unasked keeps =>
    refine ⟨fun ok => ?_, fun _ => keeps, fun _ call listed => absurd listed List.not_mem_nil,
      fun _ _ call listed => absurd listed List.not_mem_nil, reloads⟩
    rw [succeeds] at ok
    cases ok
  | refused way failed keeps =>
    refine ⟨fun ok => ?_, fun _ => keeps, fun _ => List.forall_mem_singleton.mpr way,
      fun _ _ => List.forall_mem_singleton.mpr failed, reloads⟩
    rw [succeeds] at ok
    cases ok
  | @written call h ready way reported numbered stamped =>
    refine ⟨fun _ => ⟨h.key, h.rev, ?_, stamped, numbered⟩, fun failed => ?_, fun _ => List.forall_mem_singleton.mpr way,
      fun _ failed => ?_, reloads⟩
    · rw [reported?, List.findSome?_cons, reported]
      rfl
    · rw [succeeds] at failed
      cases failed
    · cases failed

theorem outcome_of_inserted {c : RecordCollection ρ} {context : SaveContext} {before after : List ρ} {start finish : ρ}
    {calls : List Call} (answer : Except ClientError Unit)
    (inserted : RecordCollection.Inserted c.db before.length start calls finish) :
    (insertAmong c context before after).Outcome start calls answer finish := by
  cases inserted with
  | unasked keeps => exact ⟨nofun, fun _ => keeps, nofun, nofun, nofun⟩
  | @refused call r' unreported keeps =>
    have reported : (insertAmong c context before after).reported? [call] = none := by
      rw [reported?, List.findSome?_cons, place, unreported]
      rfl
    refine ⟨fun stored => ?_, fun _ => keeps, nofun, nofun, nofun⟩
    rw [succeeds, reported] at stored
    cases stored
  | @stored call h r' reported numbered stamped =>
    have reported : (insertAmong c context before after).reported? [call] = some (.ofHeader h) := by
      rw [reported?, List.findSome?_cons, place, reported]
    refine ⟨fun _ => ⟨h.key, h.rev, reported, stamped, numbered⟩, fun failed => ?_, nofun, nofun, nofun⟩
    rw [succeeds, reported] at failed
    cases failed

theorem outcome_of_reloaded (c : RecordCollection ρ) {start : ρ} {calls : List Call} {a : Except ClientError Unit × ρ}
    (reloaded : RecordCollection.Reloaded start calls a) : (reload c).Outcome start calls a.1 a.2 := by
  cases reloaded with
  | unasked => exact ⟨nofun, fun _ => .refl _ start, nofun, nofun, fun _ _ _ => rfl⟩
  | refused => exact ⟨nofun, fun _ => .refl _ start, nofun, nofun, fun _ _ _ => rfl⟩
  | @found call key rev r' reported numbered stamped =>
    refine ⟨fun _ => ⟨key, rev, ?_, stamped, numbered⟩, nofun, nofun, nofun, nofun⟩
    rw [reported?, List.findSome?_cons, reported]

/-- Nothing becomes of a record that is deleted. -/
theorem outcome_of_deleted (use : RecordUse ρ) (deletes : ∀ calls answer, use.succeeds calls answer = false)
    (unsaved : use.saves = false) (start : ρ) (calls : List Call) (answer : Except ClientError Unit) :
    use.Outcome start calls answer start := by
  refine ⟨fun ok => ?_, fun _ => .refl _ start, fun saves => ?_, fun saves => ?_, fun _ _ _ => rfl⟩
  · cases ok.symm.trans (deletes calls answer)
  · cases saves.symm.trans unsaved
  · cases saves.symm.trans unsaved

theorem delete_follows (c : RecordCollection ρ) (r : ρ) (ignoreMissing : Bool) :
    (c.delete r ignoreMissing).Follows .credible (fun _ _ => True) calls := by
  unfold RecordCollection.delete
  cases RecordCollection.keyFor "delete" r with
  | error e => trivial
  | ok key => exact ⟨trivial, fun _ _ => trivial⟩

theorem deleteAs_follows (g : RecordGraph) (kind : RecordKind) (r : ρ) (ignoreMissing : Bool) :
    (g.deleteAs kind r ignoreMissing).Follows .credible (fun _ _ => True) calls := by
  unfold RecordGraph.deleteAs Database.collection
  rw [Program.bind_assoc]
  refine .bind (Database.note_follows _) fun _ _ _ => ?_
  dsimp only [Program.done_bind]
  cases RecordCollection.keyFor "delete" r with
  | error e => trivial
  | ok key => cases kind <;> exact ⟨trivial, fun _ _ => trivial⟩

variable [StampedRecord ρ]

/-- Each use of a record comes to an end of its kind, whatever it is answered. -/
theorem program_follows (use : RecordUse ρ) (start : ρ) :
    (use.program start).Follows .credible (fun calls a => use.Outcome start calls a.1 a.2) [] := by
  cases use with
  | save c context =>
    exact (c.db.persist_follows .collection c.name context start).mono fun _ _ =>
      outcome_of_persisted (save c context) rfl
  | saveThrough g context =>
    show (g.save context start).Follows _ _ _
    unfold RecordGraph.save Database.collection
    rw [Program.bind_assoc]
    refine .bind (Database.note_follows _) ?_
    rintro _ ⟨⟩ rfl
    exact (g.db.persist_follows (.graph g.name) _ context start).mono fun _ _ =>
      outcome_of_persisted (saveThrough g context) rfl
  | insertAmong c context before after =>
    have listed : (before ++ start :: after)[before.length]? = some start := by simp
    refine .bind (c.insertMany_follows context listed) ?_
    rintro calls ⟨answer, records⟩ ⟨finish, found, inserted⟩
    dsimp only at found
    show RecordUse.Outcome _ _ _ _ (records[before.length]?.getD start)
    rw [found]
    exact outcome_of_inserted answer inserted
  | reload c => exact (c.reload_follows start).mono fun _ _ => outcome_of_reloaded c
  | delete c ignoreMissing =>
    exact .bind (delete_follows c start ignoreMissing) fun calls _ _ =>
      outcome_of_deleted (delete c ignoreMissing) (fun _ _ => rfl) rfl start calls _
  | deleteThrough g kind ignoreMissing =>
    exact .bind (deleteAs_follows g kind start ignoreMissing) fun calls _ _ =>
      outcome_of_deleted (deleteThrough g kind ignoreMissing) (fun _ _ => rfl) rfl start calls _

end RecordUse

end RecordStore
