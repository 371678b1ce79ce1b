import RecordStore.Proofs.Store.Atomicity
import RecordStore.Proofs.Store.Current
import RecordStore.Proofs.Store.Linking

/-!
# Well-formed stores

Whatever documents clients bring, every state of a run is well formed (`WellFormed`): documents are stored under legal
keys, each key once, and show their key, their identifier and a revision of their own; every edge names two vertices;
every open cursor has something left to hand out. So a header that a write is answered with is what a client reads
under its key right after (`representation_kept`).

Keys and revisions are those of the history. What a collection of edges asks of its documents is kept by every edit
(`Edged.edit`), and the cursors are kept by the three requests that touch them.
-/

namespace RecordStore

namespace Store

/-- A text with something before and something after its first slash. -/
def IsIdentifier (text : String) : Prop :=
  ∃ collection key, text = idOf collection key ∧ collection ≠ "" ∧ '/' ∉ collection.toList ∧ key ≠ ""

end Store

/-- A document that is stored under a key of a collection shows where it is, and a revision. -/
structure Labelled (name : String) (entry : String × Document) : Prop where
  key : entry.2.text? Attribute.key = some entry.1
  id : entry.2.text? Attribute.id = some (Store.idOf name entry.1)
  rev : ∃ rev, entry.2.text? Attribute.rev = some rev ∧ rev ≠ ""

namespace Collection

/-- What the documents of a collection keep to. -/
structure WellFormed (name : String) (c : Collection) : Prop where
  distinct : c.keys.Nodup
  legal : ∀ key ∈ c.keys, key ≠ "" ∧ '/' ∉ key.toList
  labelled : ∀ entry ∈ c.documents, Labelled name entry
  edges : c.options.kind = .edge → ∀ entry ∈ c.documents, ∀ field ∈ [Attribute.source, Attribute.target],
    ∃ id, entry.2.text? field = some id ∧ Store.IsIdentifier id

end Collection

namespace Store

/-- Every open cursor has something left, and hands out something with every batch. -/
def CursorsFilled (s : Store) : Prop :=
  ∀ id cursor, s.cursors.get? id = some cursor → cursor.items ≠ [] ∧ 1 ≤ cursor.batchSize

/-- What a store keeps to. -/
structure WellFormed (s : Store) : Prop where
  collections : ∀ name c, s.collections.get? name = some c → c.WellFormed name
  /-- No two documents have the same revision, in whatever collections they are. -/
  revisions : ∀ name key document, s.Holds name key document → ∀ other k stored, s.Holds other k stored →
    document.text? Attribute.rev = stored.text? Attribute.rev → other = name ∧ k = key
  cursors : s.CursorsFilled

/-! ### Edges -/

/-- A collection of edges has documents with two ends only. -/
def Edged (c : Collection) : Prop :=
  c.options.kind = .edge → ∀ entry ∈ c.documents, badEndpoint? entry.2 = none

theorem isIdentifier_of_splitId? {id name key : String} (split : splitId? id = some (name, key)) : IsIdentifier id := by
  refine ⟨name, key, idOf_of_splitId? split, ?_⟩
  unfold splitId? at split
  split at split
  · rename_i before after cut
    split at split
    · cases split
    · rename_i nonempty
      obtain ⟨rfl, rfl⟩ := Prod.mk.inj (Option.some.inj split)
      simp only [Bool.or_eq_true, List.isEmpty_iff, not_or] at nonempty
      refine ⟨by simpa using nonempty.1, ?_, by simpa using nonempty.2⟩
      rw [String.toList_ofList]
      exact Text.notMem_of_splitFirst? cut
  · cases split

theorem isIdentifier_of_badEndpoint? {document : Document} (ends : badEndpoint? document = none) {field : String}
    (side : field ∈ [Attribute.source, Attribute.target]) : ∃ id, document.text? field = some id ∧ IsIdentifier id := by
  have named : endpoint? document field ≠ none := by simpa using List.find?_eq_none.mp ends field side
  obtain ⟨⟨name, key⟩, named⟩ := Option.ne_none_iff_exists'.mp named
  obtain ⟨id, found, split⟩ := Option.bind_eq_some_iff.mp named
  exact ⟨id, found, isIdentifier_of_splitId? split⟩

theorem badEndpoint?_stamp (name key : String) (rev : Nat) (document : Document) :
    badEndpoint? (stamp name key rev document) = badEndpoint? document := by
  have same : ∀ field, field ≠ Attribute.key → field ≠ Attribute.id → field ≠ Attribute.rev →
      endpoint? (stamp name key rev document) field = endpoint? document field := by
    intro field notKey notId notRev
    unfold endpoint? Document.text?
    rw [get?_stamp_of_ne name key rev document notKey notId notRev]
  have source := same Attribute.source (by decide) (by decide) (by decide)
  have target := same Attribute.target (by decide) (by decide) (by decide)
  simp only [badEndpoint?, List.find?_cons, List.find?_nil, source, target]

theorem Edged.edit {name : String} {revs revs' : Nat} {old new : Option Collection} {ws : List Write}
    (edit : Edit name revs old ws new revs') (edged : ∀ c, old = some c → Edged c) : ∀ c, new = some c → Edged c := by
  rintro c rfl kind entry here
  have stamped : ∀ {d : Collection} {key : String} {document : Document}, d.options.kind = .edge →
      missingEndpoint? d document = none → badEndpoint? (stamp name key (revs + 1) document) = none := by
    intro d key document kind ends
    rwa [badEndpoint?_stamp, ← show missingEndpoint? d document = badEndpoint? document from if_pos kind]
  cases edit with
  | keep => exact edged c rfl kind entry here
  | create => exact absurd here List.not_mem_nil
  | thin options indexes fewer => exact edged _ rfl (options ▸ kind) entry (fewer.subset here)
  | index => exact edged _ rfl kind entry here
  | @insert c key document ends =>
    rcases List.mem_append.mp here with before | new
    · exact edged c rfl kind entry before
    · obtain rfl := List.mem_singleton.mp new
      exact stamped kind ends
  | @replace c key stored document ends =>
    rcases Collection.mem_of_mem_put here with rfl | before
    · exact stamped kind ends
    · exact edged c rfl kind entry before

theorem edged_changes {s t : Store} {ws : List Write} (changes : Changes s ws t)
    (edged : ∀ name c, s.collections.get? name = some c → Edged c) :
    ∀ name c, t.collections.get? name = some c → Edged c := by
  induction changes with
  | refl => exact edged
  | @tail t u ws vs changed before last ih =>
    intro name c present
    by_cases same : name = changed
    · subst same
      exact Edged.edit last.here (ih name) c present
    · rw [last.elsewhere name same] at present
      exact ih name c present

/-! ### Cursors -/

section Cursors

variable {s : Store}

theorem CursorsFilled.set (filled : s.CursorsFilled) (counter : Nat) (id : String) {cursor : PendingCursor}
    (left : cursor.items ≠ []) (positive : 1 ≤ cursor.batchSize) :
    { s with cursorCounter := counter, cursors := s.cursors.set id cursor }.CursorsFilled := by
  intro other held found
  rw [Table.get?_set] at found
  split at found
  · obtain rfl := Option.some.inj found
    exact ⟨left, positive⟩
  · exact filled other held found

theorem CursorsFilled.erase (filled : s.CursorsFilled) (id : String) :
    { s with cursors := s.cursors.erase id }.CursorsFilled := by
  intro other held found
  by_cases same : id = other
  · rw [same, Table.get?_erase_self] at found
    cases found
  · exact filled other held ((Table.get?_erase_of_ne _ same).symm.trans found)

theorem CursorsFilled.execute (filled : s.CursorsFilled) (q : BoundQuery) : (s.execute q).2.CursorsFilled := by
  unfold Store.execute
  split
  · exact filled
  · dsimp only
    split
    · exact filled
    · rename_i left
      exact filled.set _ _ (by simpa using left) (Nat.le_max_right _ 1)

theorem CursorsFilled.nextBatch (filled : s.CursorsFilled) (id : String) : (s.nextBatch id).2.CursorsFilled := by
  unfold Store.nextBatch
  split
  · exact filled
  · rename_i cursor held
    dsimp only
    split
    · exact filled.erase id
    · rename_i left
      exact filled.set s.cursorCounter id (by simpa using left) (filled id cursor held).2

theorem CursorsFilled.closeCursor (filled : s.CursorsFilled) (id : String) : (s.closeCursor id).2.CursorsFilled := by
  unfold Store.closeCursor
  split
  · exact filled.erase id
  · exact filled

theorem CursorsFilled.answer (filled : s.CursorsFilled) (r : Request) : (s.answer r).2.CursorsFilled := by
  cases uses : r.usesCursors with
  | false =>
    intro id cursor held
    rw [((s.answer_behaved r).cursors uses).cursors] at held
    exact filled id cursor held
  | true =>
    cases r with
    | execute q => exact filled.execute q
    | nextBatch id => exact filled.nextBatch id
    | closeCursor id => exact filled.closeCursor id
    | _ => cases uses

theorem CursorsFilled.afterAll (filled : s.CursorsFilled) (requests : List Request) :
    (s.afterAll requests).CursorsFilled := by
  induction requests generalizing s with
  | nil => exact filled
  | cons r rest ih => exact ih (filled.answer r)

end Cursors

/-! ### Headers -/

theorem shown_of_edit {name : String} {revs revs' : Nat} {old new : Option Collection} {ws : List Write}
    (edit : Edit name revs old ws new revs') :
    ∀ w ∈ ws, ∃ stored, w.document = some stored ∧ Header.ofDocument stored = w.header := by
  intro w listed
  cases edit with
  | keep | create | drop | thin | index => exact absurd listed List.not_mem_nil
  | insert | replace =>
    obtain rfl := List.mem_singleton.mp listed
    exact ⟨_, rfl, ofDocument_stamp ..⟩

/-- What a write stored is what its header says. -/
theorem shown_of_changes {s t : Store} {ws : List Write} (changes : Changes s ws t) :
    ∀ w ∈ ws, ∃ stored, w.document = some stored ∧ Header.ofDocument stored = w.header := by
  induction changes with
  | refl => exact fun w listed => absurd listed List.not_mem_nil
  | tail before last ih =>
    intro w listed
    exact (List.mem_append.mp listed).elim (ih w) (shown_of_edit last.here w)

/-- A header that a request is answered with is what its key shows right after. -/
theorem get_of_header {s : Store} {r : Request} {h : Header} (answered : h ∈ r.headers (s.answer r).1) :
    ∃ stored, (s.answer r).2.answer (.get r.target h.key) = (.ok (some stored), (s.answer r).2) ∧
      Header.ofDocument stored = h := by
  obtain ⟨stored, found, shows⟩ := shown_of_changes (s.answer_changes r) _ (List.mem_map_of_mem answered)
  exact ⟨stored, answer_get found, shows⟩

/-! ### Reachable states -/

theorem labelled_of_stored {log : List Write} {s : Store} (traced : Traced log s) {name : String}
    {entry : String × Document} {w : Write} (logged : w ∈ log) (stored : Stored w name entry) : Labelled name entry := by
  obtain ⟨n, -, number⟩ := traced.numbered w logged
  exact ⟨stored.keyAttribute, stored.idAttribute, w.header.rev, stored.revAttribute, number ▸ revision_ne_empty n⟩

theorem Traced.revision_unique {log : List Write} {s : Store} (traced : Traced log s) {name key : String}
    {document : Document} (holds : s.Holds name key document) {other k : String} {stored : Document}
    (holds' : s.Holds other k stored) (same : document.text? Attribute.rev = stored.text? Attribute.rev) :
    other = name ∧ k = key := by
  obtain ⟨c, present, here⟩ := holds
  obtain ⟨d, present', here'⟩ := holds'
  obtain ⟨w, logged, written⟩ := (traced.traced name c present).stored _ here
  obtain ⟨v, logged', written'⟩ := (traced.traced other d present').stored _ here'
  have rev : w.header.rev = v.header.rev :=
    Option.some.inj (written.revAttribute.symm.trans (same.trans written'.revAttribute))
  obtain rfl := traced.write_eq logged logged' rev
  exact ⟨written'.collection.symm.trans written.collection, written'.key.symm.trans written.key⟩

/-- Every state of a run from an empty store is well formed, whatever documents the requests bring; and each header that
a write is answered with is what a client reads under its key right after. -/
theorem representation_kept (batchSize : Nat) (requests : List Request) :
    ((empty batchSize).afterAll requests).WellFormed ∧
      ∀ (r : Request), ∀ h ∈ r.headers (((empty batchSize).afterAll requests).answer r).1, ∃ stored,
        (((empty batchSize).afterAll requests).answer r).2.answer (.get r.target h.key) =
          (.ok (some stored), (((empty batchSize).afterAll requests).answer r).2) ∧ Header.ofDocument stored = h := by
  have traced := traced_afterAll batchSize requests
  have edged := edged_changes (afterAll_changes (empty batchSize) requests) fun name c present => by cases present
  have filled : ((empty batchSize).afterAll requests).CursorsFilled :=
    CursorsFilled.afterAll (fun id cursor held => by cases held) requests
  refine ⟨⟨fun name c present => ?_, fun name key document holds other k stored holds' same => ?_, filled⟩,
    fun r h answered => get_of_header answered⟩
  · have here := traced.traced name c present
    refine ⟨here.keyed, fun key used => ?_, fun entry stored => ?_, fun kind entry stored field side => ?_⟩
    · obtain ⟨entry, stored, rfl⟩ := List.mem_map.mp used
      have found := document?_of_find? present (Collection.find?_of_mem here.keyed stored)
      have legal := isKey_of_document? batchSize requests found
      exact ⟨ne_empty_of_isKey legal, by simpa [isKey, ne_empty_of_isKey legal] using legal⟩
    · obtain ⟨w, logged, written⟩ := here.stored entry stored
      exact labelled_of_stored traced logged written
    · exact isIdentifier_of_badEndpoint? (edged name c present kind entry stored) side
  · exact traced.revision_unique holds holds' same

/-- Of two edges the first one lacks an end; the second one brings system attributes of its own, which are overwritten. -/
theorem contradictory_edge_relabelled :
    let run : List Request :=
      [.createCollection "e" .edge, .insert "e" [("_from", .string "a/1"), ("_to", .string "a/2")]]
    let r : Request := .insertMany "e" [[("_from", .string "a"), ("_to", .string "b/1")],
      [("_from", .string "a/1"), ("_id", .ofNat 7), ("_rev", .string "_r00000001"), ("_to", .string "b/1/2")]]
    let h : Header := ⟨"e/2", "2", "_r00000002"⟩
    h ∈ r.headers (((empty 1).afterAll run).answer r).1 ∧ ((empty 1).afterAll run).WellFormed ∧
      ∃ stored, (((empty 1).afterAll run).answer r).2.answer (.get "e" "2") =
        (.ok (some stored), (((empty 1).afterAll run).answer r).2) ∧ Header.ofDocument stored = h := by
  intro run r h
  have answered : h ∈ r.headers (((empty 1).afterAll run).answer r).1 := by decide +kernel
  obtain ⟨wellFormed, shown⟩ := representation_kept 1 run
  exact ⟨answered, wellFormed, shown r h answered⟩

end Store
end RecordStore
