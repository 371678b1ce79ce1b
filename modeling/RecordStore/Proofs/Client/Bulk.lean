import RecordStore.Proofs.Client.OwnerProtocol
import RecordStore.Proofs.Client.Saving

/-!
# Bulk inserts

A bulk insert prepares all records before it sends the first document, where saves take turns with one another. Both
come to the same, because preparing a record asks nothing of the store: the same documents are inserted in the same
order, and each answer goes to its own record (`insertMany_saves`).
-/

namespace RecordStore

variable {ρ : Type} [Record ρ]

namespace RecordCollection

variable (c : RecordCollection ρ) (context : SaveContext)

/-- Saves records one after another, and goes on after failures. -/
def saveEach : List ρ → Program (List (Except ClientError Unit) × List ρ)
  | [] => .done ([], [])
  | r :: rest =>
    (c.save context r).bind fun (answer, r) =>
      (saveEach rest).bind fun (answers, rest) => .done (answer :: answers, r :: rest)

/-- What the key generator and the hook leave of a new record, with the document that is made of it. -/
def prepared (time made : Nat) (r : ρ) : Except ClientError Document × ρ :=
  match Record.beforeSave true context time (c.db.keyed made r) with
  | (.error e, r) => (.error e, r)
  | (.ok (), r) => (Record.document r c.db.directory c.name, r)

/-- What is made of new records at a time, when some keys have been generated. -/
def preparedAll (time : Nat) : Nat → List ρ → List (Except ClientError Document × ρ)
  | _, [] => []
  | made, r :: rest =>
    c.prepared context time made r :: preparedAll time (if c.db.takesKey r then made + 1 else made) rest

def prepare (r : ρ) : Program (Except ClientError Document × ρ) :=
  (c.db.assignKey r).bind (c.db.hookAndEncode c.name true context)

/-- What the answer to an insertion means to the one who saves. -/
def meaning (ρ : Type) [Record ρ] : Except StoreError Header → Except ClientError Unit
  | .error e => .error (e.translate .save (Record.typeName ρ))
  | .ok _ => .ok ()

def stamped (r : ρ) : Except StoreError Header → ρ
  | .error _ => r
  | .ok header => Record.restamp r (.ofHeader header)

variable {c context} {r r' : ρ} {records : List ρ} {w : World} {s : Store}

/-! ### Preparing -/

/-- Preparing a record does the same whatever the store is, and leaves the store alone. -/
theorem prepare_run (c : RecordCollection ρ) (context : SaveContext) (transient : Record.isPersisted r = false)
    (w : World) :
    ∃ noted, ∀ store, (c.prepare context r).run { w with store := store } =
      (some (c.prepared context w.clock w.keysMade r),
        { w with
          store := store
          keysMade := if c.db.takesKey r then w.keysMade + 1 else w.keysMade
          noted := noted }) := by
  simp only [prepare, Program.run_bind, c.db.assignKey_new transient, Database.hookAndEncode, Program.ofAction,
    Program.bind, Program.run_act, World.answer, prepared]
  cases Record.beforeSave true context w.clock (c.db.keyed w.keysMade r) with
  | mk answer ready =>
    cases answer with
    | error e => exact ⟨w.noted, fun store => rfl⟩
    | ok u =>
      refine ⟨World.addAll w.noted ((Record.asked ready c.db.directory).map .collection), fun store => ?_⟩
      simp only [Program.run_bind, Database.note_run, Program.run_done]

theorem encodeAll_run_error {e : ClientError} {w' : World} (rest : List ρ)
    (first : (c.prepare context r).run w = (some (.error e, r'), w')) :
    (c.encodeAll context (r :: rest)).run w = (some (.error e, r' :: rest), w') := by
  unfold prepare at first
  unfold encodeAll
  rw [← Program.bind_assoc, Program.run_bind, first]
  rfl

theorem encodeAll_run_ok {document : Document} {encoded : Except ClientError (List Document)} {rest left : List ρ}
    {w' w'' : World} (first : (c.prepare context r).run w = (some (.ok document, r'), w'))
    (later : (c.encodeAll context rest).run w' = (some (encoded, left), w'')) :
    (c.encodeAll context (r :: rest)).run w = (some (encoded.map (document :: ·), r' :: left), w'') := by
  unfold prepare at first
  unfold encodeAll
  rw [← Program.bind_assoc, Program.run_bind, first]
  simp only [Program.run_bind, later, Program.run_done]

theorem save_run {document : Document} {made : Nat} {noted : List Subject} (transient : Record.isPersisted r = false)
    (prepared : ∀ store, (c.prepare context r).run { w with store := store } =
      (some (.ok document, r'), { w with store := store, keysMade := made, noted := noted })) :
    (c.save context r).run { w with store := ⟨s, []⟩ } =
      (some (meaning ρ (s.answer (.insert c.name document)).1, stamped r' (s.answer (.insert c.name document)).1),
        { w with store := ⟨(s.answer (.insert c.name document)).2, []⟩, keysMade := made, noted := noted }) := by
  have first := prepared ⟨s, []⟩
  have second := Program.request_run (w := { w with store := ⟨s, []⟩, keysMade := made, noted := noted }) rfl
    (.insert c.name document)
  unfold prepare at first
  unfold save Database.persist
  simp only [transient, Bool.not_false, if_true, ← Program.bind_assoc]
  rw [Program.run_bind, first]
  simp only [SaveTarget.write, Program.run_bind, second]
  cases (s.answer (.insert c.name document)).1 <;> rfl

/-! ### Inserting -/

theorem stampAll_cons (result : Except StoreError Header) (results : List (Except StoreError Header)) :
    stampAll (r :: records) (result :: results) = stamped r result :: stampAll records results := by
  cases result <;> rfl

theorem forM_meaning (results : List (Except StoreError Header)) :
    (results.map (meaning ρ)).forM id =
      match firstError results with
      | some e => .error (e.translate .save (Record.typeName ρ))
      | none => .ok () := by
  induction results with
  | nil => rfl
  | cons result rest ih =>
    cases result with
    | error e => rfl
    | ok header => exact ih

/-- Where everything can be prepared, saves insert the documents of a bulk insert, and answer as it does. -/
theorem saveEach_run (transient : ∀ r ∈ records, Record.isPersisted r = false) (w : World)
    (ready : ∀ p ∈ c.preparedAll context w.clock w.keysMade records, p.1.isOk = true) :
    ∃ documents left made noted,
      documents.length = records.length ∧ left.length = records.length ∧
      (∀ store, (c.encodeAll context records).run { w with store := store } =
        (some (.ok documents, left), { w with store := store, keysMade := made, noted := noted })) ∧
      ∀ s : Store, (c.saveEach context records).run { w with store := ⟨s, []⟩ } =
        (some ((s.answer (.insertMany c.name documents)).1.map (meaning ρ),
            stampAll left (s.answer (.insertMany c.name documents)).1),
          { w with
            store := ⟨(s.answer (.insertMany c.name documents)).2, []⟩, keysMade := made, noted := noted }) := by
  induction records generalizing w with
  | nil => exact ⟨[], [], w.keysMade, w.noted, rfl, rfl, fun _ => rfl, fun _ => rfl⟩
  | cons r rest ih =>
    obtain ⟨new, others⟩ := List.forall_mem_cons.mp transient
    obtain ⟨here, later⟩ := List.forall_mem_cons.mp ready
    obtain ⟨noted, prepares⟩ := prepare_run c context new w
    cases made : c.prepared context w.clock w.keysMade r with
    | mk encoded r' =>
      cases encoded with
      | error e => simp [made, Except.isOk, Except.toBool] at here
      | ok document =>
        rw [made] at prepares
        obtain ⟨documents, left, keys, names, lengths, lefts, encodes, saves⟩ :=
          ih others { w with keysMade := if c.db.takesKey r then w.keysMade + 1 else w.keysMade, noted := noted } later
        refine ⟨document :: documents, r' :: left, keys, names, by simp [lengths], by simp [lefts],
          fun store => ?_, fun s => ?_⟩
        · exact encodeAll_run_ok (prepares store) (encodes store)
        · unfold saveEach
          rw [Program.run_bind, save_run new prepares]
          simp only [Program.run_bind, saves]
          rw [Store.insertMany_cons, List.map_cons, stampAll_cons]
          rfl

/-- Where a record cannot be prepared, those before it are as they were prepared, and those after it as they were. -/
theorem encodeAll_fails (transient : ∀ r ∈ records, Record.isPersisted r = false) (w : World)
    {before after : List (Except ClientError Document × ρ)} {e : ClientError}
    (fails : c.preparedAll context w.clock w.keysMade records = before ++ (.error e, r) :: after)
    (ready : ∀ p ∈ before, p.1.isOk = true) :
    ∃ made noted, (c.encodeAll context records).run w =
      (some (.error e, before.map Prod.snd ++ r :: records.drop (before.length + 1)),
        { w with keysMade := made, noted := noted }) := by
  induction records generalizing w before with
  | nil => cases before <;> cases fails
  | cons first rest ih =>
    obtain ⟨new, others⟩ := List.forall_mem_cons.mp transient
    obtain ⟨noted, prepares⟩ := prepare_run c context new w
    have prepares := prepares w.store
    cases before with
    | nil =>
      obtain ⟨here, -⟩ := List.cons.inj fails
      rw [here] at prepares
      exact ⟨_, noted, encodeAll_run_error rest prepares⟩
    | cons p more =>
      obtain ⟨here, later⟩ := List.cons.inj fails
      obtain ⟨firstReady, moreReady⟩ := List.forall_mem_cons.mp ready
      rw [here] at prepares
      obtain ⟨encoded, r'⟩ := p
      cases encoded with
      | error e => cases firstReady
      | ok document =>
        obtain ⟨made, names, runs⟩ := ih others
          { w with keysMade := if c.db.takesKey first then w.keysMade + 1 else w.keysMade, noted := noted } later
          moreReady
        exact ⟨made, names, encodeAll_run_ok prepares runs⟩

/-- Neither a new key nor the hook before a save changes the revision of a record. -/
structure KeepsRev (ρ : Type) [Record ρ] (context : SaveContext) : Prop where
  withKey : ∀ (r : ρ) (key : String), Record.rev (Record.withKey r key) = Record.rev r
  beforeSave : ∀ (time : Nat) (r : ρ), Record.rev (Record.beforeSave true context time r).2 = Record.rev r

theorem KeepsRev.prepared (keeps : KeepsRev ρ context) (time made : Nat) (r : ρ) :
    Record.rev (c.prepared context time made r).2 = Record.rev r := by
  have keyed : Record.rev (c.db.keyed made r) = Record.rev r := by
    unfold Database.keyed
    split
    · rfl
    · split
      · split
        · exact keeps.withKey r _
        · rfl
      · rfl
  have hooked := keeps.beforeSave time (c.db.keyed made r)
  unfold RecordCollection.prepared
  split
  · rename_i left
    rw [left] at hooked
    exact hooked.trans keyed
  · rename_i left
    rw [left] at hooked
    exact hooked.trans keyed

theorem KeepsRev.preparedAll (keeps : KeepsRev ρ context) (transient : ∀ r ∈ records, Record.isPersisted r = false)
    (time made : Nat) : ∀ p ∈ c.preparedAll context time made records, Record.isPersisted p.2 = false := by
  induction records generalizing made with
  | nil => exact fun p listed => absurd listed List.not_mem_nil
  | cons r rest ih =>
    obtain ⟨new, others⟩ := List.forall_mem_cons.mp transient
    refine List.forall_mem_cons.mpr ⟨?_, ih others _⟩
    unfold Record.isPersisted at new ⊢
    rwa [keeps.prepared]

/-- A bulk insert of new records comes to the same as saving them one after another. If all of them can be prepared, the
world and the records are left as these saves leave them, and the answer is the first error of a save, if there is one.
If one cannot be prepared, its error is the answer and nothing is stored; no record got a revision, unless hooks make
up their own. -/
theorem insertMany_saves (c : RecordCollection ρ) (context : SaveContext) (records : List ρ) (w : World) (s : Store)
    (plain : w.store = ⟨s, []⟩) (transient : ∀ r ∈ records, Record.isPersisted r = false) :
    let ready := c.preparedAll context w.clock w.keysMade records
    ((∀ p ∈ ready, p.1.isOk = true) →
      ∃ answers left w', (c.saveEach context records).run w = (some (answers, left), w') ∧
        (c.insertMany context records).run w = (some (answers.forM id, left), w')) ∧
    ∀ before e r after, ready = before ++ (.error e, r) :: after → (∀ p ∈ before, p.1.isOk = true) →
      ∃ left w', (c.insertMany context records).run w = (some (.error e, left), w') ∧ w'.store = w.store ∧
        left = before.map Prod.snd ++ r :: records.drop (before.length + 1) ∧
        (KeepsRev ρ context → ∀ r ∈ left, Record.isPersisted r = false) := by
  intro ready
  constructor
  · intro succeeds
    obtain ⟨documents, left, made, noted, lengths, lefts, encodes, saves⟩ := saveEach_run transient w succeeds
    have encodes := encodes w.store
    have saves := saves s
    rw [← plain] at saves
    refine ⟨_, _, _, saves, ?_⟩
    have complete : (s.answer (.insertMany c.name documents)).1.length = left.length := by
      rw [Store.length_insertMany, lengths, lefts]
    have sent := Program.request_run (w := { w with keysMade := made, noted := noted }) plain
      (.insertMany c.name documents)
    unfold insertMany
    rw [Program.run_bind, encodes]
    simp only [Program.run_bind, sent, if_pos complete, forM_meaning]
    cases firstError (s.answer (.insertMany c.name documents)).1 <;> rfl
  · intro before e r after fails succeed
    obtain ⟨made, noted, encodes⟩ := encodeAll_fails transient w fails succeed
    refine ⟨_, { w with keysMade := made, noted := noted }, ?_, rfl, rfl, fun keeps r' listed => ?_⟩
    · unfold insertMany
      rw [Program.run_bind, encodes]
      rfl
    · have unwritten := keeps.preparedAll (c := c) transient w.clock w.keysMade
      rw [show c.preparedAll context w.clock w.keysMade records = _ from fails] at unwritten
      rcases List.mem_append.mp listed with one | other
      · obtain ⟨p, here, rfl⟩ := List.mem_map.mp one
        exact unwritten p (List.mem_append_left _ here)
      · rcases List.mem_cons.mp other with rfl | untouched
        · exact unwritten (.error e, r') (List.mem_append_right _ List.mem_cons_self)
        · exact transient r' (List.mem_of_mem_drop untouched)

/-- Of four people one has the name of another, and one is given a key that is in use; of three links the second one
leaves a vertex that nobody shares. -/
theorem clashing_people_saved :
    let db : Database := { config := { keyGenerator := some fun _ => "a" } }
    let people : RecordCollection Sample.ExtendedIdentity := ⟨db, "people"⟩
    let links : RecordCollection Sample.Link := ⟨db, "links"⟩
    let w : World := { store := ⟨(Store.empty 1).afterAll [.createCollection "people" {},
      .ensureIndex "people" { fields := ["name"], unique := true }, .createCollection "links" .edge], []⟩ }
    let records : List Sample.ExtendedIdentity := [{ name := "Ada" }, { stamp := ⟨some "b", ""⟩, name := "Ada" },
      { name := "Cy" }, { stamp := ⟨some "d", ""⟩, name := "Dee" }]
    let link (source : Endpoint) : Sample.Link := { ends := ⟨source, .id "people/a"⟩, text := "t" }
    let chain := [link (.id "people/b"), link (.shared 0), link (.id "people/d")]
    (∃ answers left w', (people.saveEach [] records).run w = (some (answers, left), w') ∧
      (people.insertMany [] records).run w = (some (answers.forM id, left), w') ∧
      answers.map (·.isOk) = [true, false, false, true] ∧
      left.map Record.key = [some "a", some "b", some "a", some "d"] ∧
      left.map Record.rev = ["_r00000001", "", "", "_r00000002"]) ∧
    ∃ e left w', (links.insertMany [] chain).run w = (some (.error e, left), w') ∧ w'.store = w.store ∧
      ∀ r ∈ left, Record.isPersisted r = false := by
  intro db people links w records link chain
  have ready : ∀ p ∈ people.preparedAll [] w.clock w.keysMade records, p.1.isOk = true := by decide +kernel
  have transient : ∀ r ∈ records, Record.isPersisted r = false := by decide +kernel
  obtain ⟨answers, left, w', saved, inserted⟩ := (insertMany_saves people [] records w _ rfl transient).1 ready
  have shown : ((people.saveEach [] records).run w).1.map (fun (answers, left) =>
      (answers.map (·.isOk), left.map Record.key, left.map Record.rev)) =
      some ([true, false, false, true], [some "a", some "b", some "a", some "d"],
        ["_r00000001", "", "", "_r00000002"]) := by
    decide +kernel
  rw [saved] at shown
  obtain ⟨oks, stamps⟩ := Prod.mk.inj (Option.some.inj shown)
  obtain ⟨keys, revs⟩ := Prod.mk.inj stamps
  refine ⟨⟨answers, left, w', saved, inserted, oks, keys, revs⟩, ?_⟩
  have unwritten : ∀ r ∈ chain, Record.isPersisted r = false := by decide +kernel
  have keeps : KeepsRev Sample.Link [] := ⟨fun _ _ => rfl, fun _ _ => rfl⟩
  obtain ⟨others, w', failed, same, -, transient⟩ := (insertMany_saves links [] chain w _ rfl unwritten).2
    [links.prepared [] w.clock w.keysMade (link (.id "people/b"))] _ (link (.shared 0)) _ rfl (by decide +kernel)
  exact ⟨_, others, w', failed, same, transient keeps⟩

end RecordCollection
end RecordStore
