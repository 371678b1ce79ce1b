import RecordStore.Proofs.Client.Saving
import RecordStore.Proofs.Client.Streaming
import RecordStore.Proofs.Store.WellFormed

/-!
# Reading a collection

A collection can be read in five ways: by its keys, by its identifiers, by a list of keys, all at once with a limit and
with results to be left out, and record by record. What they give is told by the documents of the collection as they are
stored, in their order (`reads_agree`). So the ways agree with each other.

A limit is part of the query, and then so is what is left out. Without a limit a cursor is asked for what is left out, one
result after another, and is then read to its end; whatever the batch size, it is read as its results are
(`RecordCursor.toListAndDrop_ends`). A list of keys is asked for key by key, and finds each document again because no two
have the same key.
-/

namespace RecordStore

/-! ### Documents -/

namespace RecordCollection

variable {ρ : Type} [Record ρ]

/-- An answer that decodes documents: the records of all of them, or the first error among them. -/
structure Decodes (documents : List Document) (answer : Except ClientError (List ρ)) : Prop where
  complete : ∀ records, answer = .ok records ↔ records.map .ok = documents.map fun d => Record.ofValue (.object d)
  first : ∀ e, answer = .error e ↔ ∃ before document after, documents = before ++ document :: after ∧
    Record.ofValue (ρ := ρ) (.object document) = .error e ∧
      ∀ d ∈ before, (Record.ofValue (ρ := ρ) (.object d)).isOk = true

theorem readAll_objects (documents : List Document) :
    (RecordCursor.readAll (ρ := ρ) (documents.map .object)).1 = ofDocuments documents := by
  induction documents with
  | nil => rfl
  | cons document rest ih =>
    rw [List.map_cons, RecordCursor.readAll_cons, ih, ofDocuments]
    cases (Record.ofValue (.object document) : Except ClientError ρ) <;> rfl

namespace Decodes

variable {document : Document} {rest : List Document} {answer : Except ClientError (List ρ)}

theorem nil : Decodes (ρ := ρ) [] (.ok []) := by
  refine ⟨fun records => by simp [eq_comm], fun e => ⟨nofun, ?_⟩⟩
  rintro ⟨before, document, after, split, -⟩
  simp at split

theorem error {e : ClientError} (failed : Record.ofValue (ρ := ρ) (.object document) = .error e) (rest : List Document) :
    Decodes (ρ := ρ) (document :: rest) (.error e) := by
  refine ⟨fun records => ⟨nofun, fun decoded => ?_⟩, fun e' => ⟨?_, ?_⟩⟩
  · rw [List.map_cons, failed] at decoded
    cases records <;> cases decoded
  · rintro ⟨⟩
    exact ⟨[], document, rest, rfl, failed, fun _ listed => absurd listed List.not_mem_nil⟩
  · rintro ⟨before, found, after, split, wrong, fine⟩
    cases before with
    | nil =>
      obtain ⟨rfl, -⟩ := List.cons.inj split
      exact congrArg Except.error (Except.error.inj (failed.symm.trans wrong))
    | cons d before =>
      obtain ⟨rfl, -⟩ := List.cons.inj split
      have decoded := fine document List.mem_cons_self
      rw [failed] at decoded
      cases decoded

theorem cons {r : ρ} (decoded : Record.ofValue (.object document) = .ok r) (later : Decodes rest answer) :
    Decodes (document :: rest) (answer.map (r :: ·)) := by
  constructor
  · intro records
    rw [List.map_cons, decoded]
    cases answer with
    | error e =>
      refine ⟨nofun, fun same => ?_⟩
      cases records with
      | nil => cases same
      | cons first others => cases (later.complete others).mpr (List.cons.inj same).2
    | ok others =>
      constructor
      · rintro ⟨⟩
        exact congrArg (.ok r :: ·) ((later.complete others).mp rfl)
      · intro same
        cases records with
        | nil => cases same
        | cons first others' =>
          obtain ⟨one, more⟩ := List.cons.inj same
          obtain rfl := Except.ok.inj one
          obtain rfl := Except.ok.inj ((later.complete others').mpr more)
          rfl
  · intro e
    have tail : answer.map (r :: ·) = .error e ↔ answer = .error e := by
      cases answer <;> simp [Except.map]
    rw [tail, later.first]
    constructor
    · rintro ⟨before, found, after, rfl, wrong, fine⟩
      refine ⟨document :: before, found, after, rfl, wrong, List.forall_mem_cons.mpr ⟨?_, fine⟩⟩
      rw [decoded]
      rfl
    · rintro ⟨before, found, after, split, wrong, fine⟩
      cases before with
      | nil =>
        obtain ⟨rfl, -⟩ := List.cons.inj split
        cases decoded.symm.trans wrong
      | cons d before =>
        obtain ⟨rfl, rfl⟩ := List.cons.inj split
        exact ⟨before, found, after, rfl, wrong, (List.forall_mem_cons.mp fine).2⟩

end Decodes

theorem decodes_ofDocuments (documents : List Document) : Decodes documents (ofDocuments (ρ := ρ) documents) := by
  induction documents with
  | nil => exact .nil
  | cons document rest ih =>
    rw [ofDocuments]
    cases decoded : (Record.ofValue (.object document) : Except ClientError ρ) with
    | error e => exact .error decoded rest
    | ok r => exact .cons decoded ih

/-! ### The ways to read a collection -/

variable {c : RecordCollection ρ} {w : World} {s : Store} {l : Collection}

/-- The documents that are asked for: some are left out first, and there may be a limit. -/
def window (limit skip : Option Nat) (documents : List Document) : List Document :=
  match limit with
  | some n => (documents.drop (skip.getD 0)).take n
  | none => documents.drop (skip.getD 0)

theorem all_run (plain : w.store = ⟨s, []⟩) (present : s.collections.get? c.name = some l) {limit skip : Option Nat}
    (smallLimit : ∀ n ∈ limit, n < UInt64.size) (smallSkip : ∀ n ∈ skip, n < UInt64.size) :
    ∃ w', (c.all limit skip).run w = (some (ofDocuments (window limit skip l.contents)), w') := by
  cases limit with
  | none =>
    obtain ⟨q, made⟩ : ∃ q, Find.query c.name {} c.db.directory = .ok q := ⟨_, rfl⟩
    obtain ⟨cursor, w₁, found, streams⟩ := find_streams plain made (Find.evaluate_all made present)
    obtain ⟨d, -, w₂, skipped, sameId, left⟩ :=
      (RecordCursor.skip_reads (skip.getD 0) streams).run (Turn.fits_alone _ _)
    obtain ⟨answer, -, w₃, listed, rfl⟩ := (RecordCursor.toListAndDrop_ends left).run (Turn.fits_alone _ _)
    refine ⟨w₃, ?_⟩
    simp only [all, Program.andThen, Program.run_bind, found, skipped, listed]
    rw [← List.map_drop, readAll_objects, window]
  | some n =>
    obtain ⟨q, made⟩ : ∃ q, Find.query c.name { limit := some n, offset := some (skip.getD 0) } c.db.directory = .ok q :=
      ⟨_, rfl⟩
    have small : ∀ m ∈ some (skip.getD 0), m < UInt64.size := by
      rintro _ ⟨⟩
      cases skip with
      | none => decide
      | some m => exact smallSkip m rfl
    have built : ({} : Find.Filters) = Find.Filters.ofCalls [] := rfl
    have everything : ({} : Find.Filters).keeps c.db.directory = fun _ => true := rfl
    obtain ⟨cursor, w₁, found, streams⟩ :=
      find_streams plain made (Find.evaluate_find _ built small smallLimit made present)
    obtain ⟨answer, -, w₂, listed, rfl⟩ := (RecordCursor.toListAndDrop_ends streams).run (Turn.fits_alone _ _)
    refine ⟨w₂, ?_⟩
    simp only [all, Program.andThen, Program.run_bind, found, listed]
    simp only [Find.Options.evaluation, Find.Options.cut, Find.Options.kept, Find.Options.keys, everything,
      List.filter_true, List.map_nil, Query.Key.sort_nil, Option.getD_some]
    rw [← List.map_drop, ← List.map_take, readAll_objects, window]

omit [Record ρ] in
/-- The documents that are stored under the keys of a collection, asked for one after another. -/
theorem collectFound_find (present : s.collections.get? c.name = some l) (keyed : l.keys.Nodup)
    {entries : List (String × Document)} (stored : ∀ entry ∈ entries, entry ∈ l.documents) :
    collectFound (fun key s => s.look (s.find c.name key)) (entries.map Prod.fst) s =
      (.ok (entries.map Prod.snd), s) := by
  induction entries with
  | nil => rfl
  | cons entry rest ih =>
    have here : s.look (s.find c.name entry.1) = (.ok (some entry.2), s) := by
      have found := Collection.find?_of_mem keyed (stored entry List.mem_cons_self)
      simp only [Store.look, Store.find, Store.collection, present, Except.map, found, Except.mapError]
    have later := ih fun other listed => stored other (List.mem_cons_of_mem entry listed)
    rw [List.map_cons, collectFound, here]
    dsimp only
    rw [later]
    rfl

theorem getMany_run (plain : w.store = ⟨s, []⟩) (present : s.collections.get? c.name = some l) (keyed : l.keys.Nodup) :
    (c.getMany l.keys).run w = (some (ofDocuments l.contents), w) := by
  have answered := Program.request_run plain (.getMany c.name l.keys)
  simp only [Store.answer, Collection.keys, collectFound_find present keyed fun _ listed => listed, ← plain] at answered
  rw [getMany, ask, Program.andThen, Program.requestOr, Program.run_bind, Program.run_bind]
  simp only [Collection.keys, answered]
  rfl

omit [Record ρ] in
theorem keys_run (plain : w.store = ⟨s, []⟩) (present : s.collections.get? c.name = some l) :
    c.keys.run w = (some (.ok l.keys), w) := by
  have answered := Program.request_run plain (.keys c.name)
  simp only [Store.answer, Store.look, Store.keys, Store.collection, present, Except.map, Except.mapError,
    ← plain] at answered
  rw [keys, ask, Program.requestOr, Program.run_bind, answered]
  rfl

omit [Record ρ] in
theorem ids_run (plain : w.store = ⟨s, []⟩) (present : s.collections.get? c.name = some l) :
    c.ids.run w = (some (.ok (l.keys.map (Store.idOf c.name))), w) := by
  rw [ids, Program.mapOk, Program.run_bind, keys_run plain present]
  rfl

omit [Record ρ] in
theorem count_run (plain : w.store = ⟨s, []⟩) (present : s.collections.get? c.name = some l) :
    c.count.run w = (some (.ok l.documents.length), w) := by
  have answered := Program.request_run plain (.count c.name)
  simp only [Store.answer, Store.look, Store.count, Store.collection, present, Except.map, Except.mapError,
    ← plain] at answered
  rw [count, ask, Program.requestOr, Program.run_bind, answered]
  rfl

/-- What the ways to read a collection give, told by the documents that are stored in it. -/
structure Reads (c : RecordCollection ρ) (l : Collection) (w : World) : Prop where
  /-- Only what is asked for is decoded, and the first of it that is no record is the error. -/
  all : ∀ limit skip : Option Nat, (∀ n ∈ limit, n < UInt64.size) → (∀ n ∈ skip, n < UInt64.size) →
    ∃ answer w', (c.all limit skip).run w = (some answer, w') ∧ Decodes (window limit skip l.contents) answer
  many : ((c.getMany l.keys).run w).1 = ((c.all none none).run w).1
  keys : (c.keys.run w).1 = some (.ok l.keys)
  ids : ∃ ids, (c.ids.run w).1 = some (.ok ids) ∧ ids = l.keys.map (Store.idOf c.name) ∧
    ids.map some = l.contents.map (·.text? Attribute.id)
  count : (c.count.run w).1 = some (.ok l.contents.length)
  load : ∀ key document, (key, document) ∈ l.documents → ((c.load key).run w).1 = some (Record.ofValue (.object document))

/-- The ways to read a collection agree, in every state that requests lead to. -/
theorem reads_agree {batchSize : Nat} {requests : List Request} (reached : (Store.empty batchSize).afterAll requests = s)
    (plain : w.store = ⟨s, []⟩) (present : s.collections.get? c.name = some l) : c.Reads l w := by
  have traced := reached ▸ Store.traced_afterAll batchSize requests
  have here := traced.traced c.name l present
  have labelled : ∀ entry ∈ l.documents, Labelled c.name entry := by
    intro entry stored
    obtain ⟨w, logged, written⟩ := here.stored entry stored
    exact Store.labelled_of_stored traced logged written
  refine ⟨fun limit skip smallLimit smallSkip => ?_, ?_, ?_, ?_, ?_, fun key document stored => ?_⟩
  · obtain ⟨w', ran⟩ := all_run plain present smallLimit smallSkip
    exact ⟨_, w', ran, decodes_ofDocuments _⟩
  · have all : ∃ w', (c.all none none).run w = (some (ofDocuments l.contents), w') :=
      all_run plain present (by simp) (by simp)
    obtain ⟨w', ran⟩ := all
    rw [getMany_run plain present here.keyed, ran]
  · rw [keys_run plain present]
  · refine ⟨_, congrArg Prod.fst (ids_run plain present), rfl, ?_⟩
    rw [Collection.keys, Collection.contents, List.map_map, List.map_map, List.map_map]
    exact List.map_congr_left fun entry stored => (labelled entry stored).id.symm
  · rw [count_run plain present, Collection.contents, List.length_map]
  · have found := Store.document?_of_find? present (Collection.find?_of_mem here.keyed stored)
    rw [load_run plain, loaded_of_document? found]

/-- Three documents, of which the second is no record: only who asks for it gets an error. -/
theorem locks_read_around_one :
    let held : Document := [("_key", .string "k"), ("_rev", .string ""), ("expiresAt", .ofNat 1), ("name", .string "n")]
    let s := (Store.empty 1).afterAll
      [.createCollection "c" {}, .insertMany "c" [held, [], held.setText "_key" "l"]]
    let w : World := { store := ⟨s, []⟩ }
    let c : RecordCollection LockDocument := ⟨{}, "c"⟩
    ∃ l, s.collections.get? "c" = some l ∧ c.Reads l w ∧
      (∃ r w', (c.all (some 1) (some 2)).run w = (some (.ok [r]), w')) ∧
      ∃ e w', (c.all none (some 1)).run w = (some (.error e), w') := by
  intro held s w c
  obtain ⟨l, present⟩ : ∃ l, s.collections.get? "c" = some l := Option.isSome_iff_exists.mp (by decide +kernel)
  have decodes : (s.collections.get? "c").map (fun l =>
      l.contents.map fun d => (Record.ofValue (.object d) : Except ClientError LockDocument).isOk) =
      some [true, false, true] := by
    decide +kernel
  rw [present, Option.map_some, Option.some_inj] at decodes
  obtain ⟨first, second, third, contents⟩ : ∃ first second third, l.contents = [first, second, third] :=
    List.length_eq_three.mp (by simpa using congrArg List.length decodes)
  rw [contents] at decodes
  obtain ⟨-, two, three, -⟩ : _ ∧ _ ∧ _ ∧ _ := by simpa only [List.map_cons, List.cons.injEq] using decodes
  have reads : c.Reads l w := reads_agree rfl rfl present
  refine ⟨l, present, reads, ?_, ?_⟩
  · obtain ⟨answer, w', ran, decodes⟩ := reads.all (some 1) (some 2) (by simp [UInt64.size]) (by simp [UInt64.size])
    rw [contents] at decodes
    cases decoded : (Record.ofValue (.object third) : Except ClientError LockDocument) with
    | error e =>
      rw [decoded] at three
      cases three
    | ok r =>
      obtain rfl := (decodes.complete [r]).mpr (by simp [window, decoded])
      exact ⟨r, w', ran⟩
  · obtain ⟨answer, w', ran, decodes⟩ := reads.all none (some 1) (by simp) (by simp [UInt64.size])
    rw [contents] at decodes
    cases failed : (Record.ofValue (.object second) : Except ClientError LockDocument) with
    | ok r =>
      rw [failed] at two
      cases two
    | error e =>
      obtain rfl := (decodes.first e).mpr ⟨[], second, [third], rfl, failed, by simp⟩
      exact ⟨e, w', ran⟩

end RecordCollection
end RecordStore
