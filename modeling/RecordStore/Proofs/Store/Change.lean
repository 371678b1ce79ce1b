import RecordStore.Proofs.Store.Graphs
import RecordStore.Store.Request

/-!
# Changes

`Edit` lists everything that can happen to one collection, with the checks that allow it and the write that a client
sees. `answer_changes` shows that every request comes to a sequence of such edits, so an invariant of collections is
proved once for each edit and holds after every run.
-/

namespace RecordStore

/-- A successful write: the collection, the header that the store answered, and what the key showed right after. -/
structure Write where
  collection : String
  header : Header
  document : Option Document

namespace Request

def target : Request → String
  | insert collection _ | insertMany collection _ | replace collection _ => collection
  | insertVertex _ collection _ | insertEdge _ collection _ => collection
  | replaceVertex _ collection _ | replaceEdge _ collection _ => collection
  | _ => ""

def headers : (r : Request) → r.Answer → List Header
  | insert _ _, answer | replace _ _, answer => answer.toOption.toList
  | insertVertex _ _ _, answer | insertEdge _ _ _, answer => answer.toOption.toList
  | replaceVertex _ _ _, answer | replaceEdge _ _ _, answer => answer.toOption.toList
  | insertMany _ _, answers => answers.filterMap Except.toOption
  | _, _ => []

end Request

namespace Store

def document? (s : Store) (collection key : String) : Option Document :=
  (s.collections.get? collection).bind (·.find? key)

/-- A write that was answered with a header and led to a state. -/
def writeTo (t : Store) (collection : String) (header : Header) : Write :=
  ⟨collection, header, t.document? collection header.key⟩

/-- The writes that a request makes, as the client sees them. -/
def writes (s : Store) (r : Request) : List Write :=
  (r.headers (s.answer r).1).map ((s.answer r).2.writeTo r.target)

/-- The writes of a run, in order. -/
def history (s : Store) : List Request → List Write
  | [] => []
  | r :: rest => s.writes r ++ history (s.answer r).2 rest

end Store

/-- What can happen to the collection of a name while the number of the last revision stands at `revs`. -/
inductive Edit (name : String) (revs : Nat) : Option Collection → List Write → Option Collection → Nat → Prop where
  | keep (c : Option Collection) : Edit name revs c [] c revs
  | create (options : CollectionOptions) : Edit name revs none [] (some { options := options }) revs
  | drop (c : Option Collection) : Edit name revs c [] none revs
  | thin {c rest : Collection} (options : rest.options = c.options) (indexes : rest.indexes = c.indexes)
      (fewer : rest.documents.Sublist c.documents) : Edit name revs (some c) [] (some rest) revs
  | index {c : Collection} {i : IndexSpec}
      (distinct : i.unique = true → Store.hasRepetition (c.contents.filterMap i.values?) = false) :
      Edit name revs (some c) [] (some { c with indexes := c.indexes ++ [i] }) revs
  | insert {c : Collection} {key : String} {document : Document}
      (ends : Store.missingEndpoint? c document = none)
      (keyed : document.get? Attribute.key = none ∨ document.get? Attribute.key = some .null ∨
        document.get? Attribute.key = some (.string key))
      (free : c.hasKey key = false) (clear : c.clash? document key = none) :
      Edit name revs (some c)
        [⟨name, ⟨Store.idOf name key, key, Store.revision (revs + 1)⟩,
          some (Store.stamp name key (revs + 1) document)⟩]
        (some (c.push key (Store.stamp name key (revs + 1) document))) (revs + 1)
  | replace {c : Collection} {key : String} {stored document : Document}
      (ends : Store.missingEndpoint? c document = none)
      (keyed : document.get? Attribute.key = some (.string key))
      (found : c.find? key = some stored) (clear : c.clash? document key = none) :
      Edit name revs (some c)
        [⟨name, ⟨Store.idOf name key, key, Store.revision (revs + 1)⟩,
          some (Store.stamp name key (revs + 1) document)⟩]
        (some (c.put key (Store.stamp name key (revs + 1) document))) (revs + 1)

namespace Store

/-- One edit of one collection; every other collection stays as it is. -/
structure Change (name : String) (s : Store) (ws : List Write) (t : Store) : Prop where
  here : Edit name s.revCounter (s.collections.get? name) ws (t.collections.get? name) t.revCounter
  elsewhere : ∀ other, other ≠ name → t.collections.get? other = s.collections.get? other

/-- Edits in turn, with the writes that they make. -/
inductive Changes : Store → List Write → Store → Prop where
  | refl (s : Store) : Changes s [] s
  | tail {s t u : Store} {ws vs : List Write} {name : String} (before : Changes s ws t)
      (last : Change name t vs u) : Changes s (ws ++ vs) u

namespace Changes

theorem one {s t : Store} {ws : List Write} (name : String) (change : Change name s ws t) : Changes s ws t :=
  (Changes.refl s).tail change

theorem trans {s t u : Store} {ws vs : List Write} (first : Changes s ws t) (second : Changes t vs u) :
    Changes s (ws ++ vs) u := by
  induction second with
  | refl => simpa using first
  | tail before last ih =>
    rw [← List.append_assoc]
    exact ih.tail last

/-- What happens besides the collections and the revisions is no edit. -/
theorem aside {s t : Store} (collections : t.collections = s.collections) (revs : t.revCounter = s.revCounter) :
    Changes s [] t :=
  .one "" ⟨by rw [collections, revs]; exact .keep _, fun other _ => by rw [collections]⟩

/-- A run of single edits of the collections. -/
theorem foldl {α : Type} {f : Table Collection → α → Table Collection}
    (step : ∀ (s : Store) (a : α), Changes s [] { s with collections := f s.collections a }) (items : List α)
    (s : Store) : Changes s [] { s with collections := items.foldl f s.collections } := by
  induction items generalizing s with
  | nil => exact .refl s
  | cons a rest ih => exact (step s a).trans (ih { s with collections := f s.collections a })

end Changes

/-! ### Edits of the single operations -/

theorem changes_set {s t : Store} {name : String} {c : Collection} {ws : List Write}
    (collections : t.collections = s.collections.set name c)
    (edit : Edit name s.revCounter (s.collections.get? name) ws (some c) t.revCounter) : Changes s ws t := by
  refine .one name ⟨?_, fun other different => ?_⟩
  · rw [collections, Table.get?_set_self]
    exact edit
  · rw [collections, Table.get?_set_of_ne _ _ different.symm]

theorem changes_erase (s : Store) (name : String) :
    Changes s [] { s with collections := s.collections.erase name } := by
  refine .one name ⟨?_, fun other different => ?_⟩
  · rw [Table.get?_erase_self]
    exact .drop _
  · exact Table.get?_erase_of_ne _ different.symm

theorem changes_withoutEdgesAt (s : Store) (vertex name : String) :
    Changes s [] { s with collections := s.collections.modify name (Collection.withoutEdgesAt · vertex) } := by
  refine .one name ⟨?_, fun other different => ?_⟩
  · rw [Table.get?_modify, if_pos rfl]
    cases s.collections.get? name with
    | none => exact .keep none
    | some c => exact .thin rfl rfl List.filter_sublist
  · rw [Table.get?_modify, if_neg different.symm]

theorem changes_ensureCollection (s : Store) (name : String) (options : CollectionOptions) :
    Changes s [] (s.ensureCollection name options) := by
  unfold ensureCollection
  split
  · exact .refl s
  · rename_i absent
    have none : s.collections.get? name = none := Table.has_eq_false.mp (by simpa using absent)
    refine changes_set (c := { options := options }) rfl ?_
    rw [none]
    exact .create options

/-! ### Edits of the requests -/

def stampedWrite (s : Store) (name key : String) (document : Document) : Write :=
  ⟨name, ⟨idOf name key, key, revision (s.revCounter + 1)⟩, some (stamp name key (s.revCounter + 1) document)⟩

theorem changes_inserted {s : Store} {name key : String} {c : Collection} {n : Nat} {document : Document}
    (checked : s.InsertChecked name c key n document) :
    Changes s [s.stampedWrite name key document] (s.inserted name c key n document) := by
  refine changes_set rfl ?_
  rw [checked.present]
  exact .insert checked.ends checked.keyed checked.free checked.clear

theorem changes_replaced {s : Store} {name key : String} {c : Collection} {stored document : Document}
    (checked : s.ReplaceChecked name c key stored document) :
    Changes s [s.stampedWrite name key document] (s.replaced name c key document) := by
  refine changes_set rfl ?_
  rw [checked.present]
  exact .replace checked.ends (Document.get?_of_text? checked.keyed) checked.found checked.clear

theorem changes_removed {s : Store} {name key : String} {c : Collection} {rev : Option String} {stored : Document}
    (checked : s.DeleteChecked name c key rev stored) : Changes s [] (s.setCollection name (c.remove key)) := by
  refine changes_set rfl ?_
  rw [checked.present]
  exact .thin rfl rfl (Collection.remove_sublist c key)

theorem writeTo_inserted {s : Store} {name key : String} {c : Collection} {n : Nat} {document : Document}
    (checked : s.InsertChecked name c key n document) :
    (s.inserted name c key n document).writeTo name ⟨idOf name key, key, revision (s.revCounter + 1)⟩ =
      s.stampedWrite name key document := by
  simp [writeTo, stampedWrite, document?, inserted, setCollection, Collection.find?_push_self checked.free]

theorem writeTo_replaced {s : Store} {name key : String} {c : Collection} {stored document : Document}
    (checked : s.ReplaceChecked name c key stored document) :
    (s.replaced name c key document).writeTo name ⟨idOf name key, key, revision (s.revCounter + 1)⟩ =
      s.stampedWrite name key document := by
  simp [writeTo, stampedWrite, document?, replaced, setCollection, Collection.find?_put_self checked.found]

def outcomeWrites (name : String) (outcome : Outcome Header) : List Write :=
  outcome.1.toOption.toList.map (outcome.2.writeTo name)

theorem insert_changes (s : Store) (name : String) (document : Document) :
    Changes s (outcomeWrites name (s.insert name document)) (s.insert name document).2 := by
  rcases s.insert_cases name document with ⟨r, n, -, refused⟩ | ⟨c, key, n, checked, stored⟩
  · rw [refused]
    exact .aside rfl rfl
  · rw [stored]
    show Changes s [writeTo _ name _] _
    rw [writeTo_inserted checked]
    exact changes_inserted checked

theorem replace_changes (s : Store) (name : String) (document : Document) :
    Changes s (outcomeWrites name (s.replace name document)) (s.replace name document).2 := by
  rcases s.replace_cases name document with ⟨r, refused⟩ | ⟨c, key, stored, checked, done⟩
  · rw [refused]
    exact .aside rfl rfl
  · rw [done]
    show Changes s [writeTo _ name _] _
    rw [writeTo_replaced checked]
    exact changes_replaced checked

theorem delete_changes (s : Store) (name key : String) (rev : Option String) (ignoreMissing : Bool) :
    Changes s [] (s.delete name key rev ignoreMissing).2 := by
  rcases s.delete_cases name key rev ignoreMissing with ⟨r, refused⟩ | nothing | ⟨c, stored, checked, done⟩
  · rw [refused]
    exact .refl s
  · rw [nothing]
    exact .refl s
  · rw [done]
    exact changes_removed checked

theorem writes_of_outcome (s : Store) (name : String) {r : Request} (outcome : Outcome Header)
    (answers : s.writes r = ((reply outcome).1.toOption.toList).map ((reply outcome).2.writeTo name)) :
    s.writes r = outcomeWrites name outcome := by
  obtain ⟨result, t⟩ := outcome
  rw [answers]
  cases result <;> rfl

theorem after_changes {s : Store} {name : String} {next : Store → Outcome Header} (check : Except Refusal Unit)
    (changes : Changes s (outcomeWrites name (next s)) (next s).2) :
    Changes s (outcomeWrites name (s.after check next)) (s.after check next).2 := by
  rcases s.after_cases check next with ⟨r, -, refused⟩ | ⟨-, passed⟩
  · rw [refused]
    exact .refl s
  · rw [passed]
    exact changes

theorem document?_insert {s : Store} {other key : String} {stored : Document}
    (before : s.document? other key = some stored) (name : String) (document : Document) :
    (s.insert name document).2.document? other key = some stored := by
  rcases s.insert_cases name document with ⟨r, n, -, refused⟩ | ⟨c, new, n, checked, done⟩
  · rw [refused]
    exact before
  · rw [done]
    by_cases same : name = other
    · subst same
      simp only [document?, checked.present, Option.bind_some] at before
      simp [document?, inserted, setCollection, Collection.find?_push_of_find? before]
    · simpa [document?, inserted, setCollection, Table.get?_set_of_ne _ _ same] using before

theorem document?_insertMany {s : Store} {other key : String} {stored : Document}
    (before : s.document? other key = some stored) (name : String) (documents : List Document) :
    (s.answer (.insertMany name documents)).2.document? other key = some stored := by
  induction documents generalizing s with
  | nil => exact before
  | cons document rest ih => exact ih (document?_insert before name document)

/-- A bulk insert is its single inserts in turn; what the later ones store does not show under earlier keys. -/
theorem writes_insertMany_cons (s : Store) (name : String) (document : Document) (rest : List Document) :
    s.writes (.insertMany name (document :: rest)) =
      outcomeWrites name (s.insert name document) ++ (s.insert name document).2.writes (.insertMany name rest) := by
  have unfolded : s.writes (.insertMany name (document :: rest)) =
      (s.insert name document).1.toOption.toList.map
        (((s.insert name document).2.answer (.insertMany name rest)).2.writeTo name) ++
          (s.insert name document).2.writes (.insertMany name rest) := by
    simp only [writes, Request.headers, Request.target, answer, collectAll, reply, List.filterMap_cons]
    cases (s.insert name document).1 <;> rfl
  rw [unfolded, outcomeWrites]
  congr 1
  rcases s.insert_cases name document with ⟨r, n, -, refused⟩ | ⟨c, key, n, checked, done⟩
  · rw [refused]
    rfl
  · have now := congrArg Write.document (writeTo_inserted checked)
    have later := document?_insertMany now name rest
    rw [done]
    simp only [Except.toOption, Option.toList_some, List.map_cons, List.map_nil, List.cons.injEq, and_true]
    rw [writeTo_inserted checked, writeTo, later, stampedWrite]

theorem insertMany_changes (s : Store) (name : String) (documents : List Document) :
    Changes s (s.writes (.insertMany name documents)) (s.answer (.insertMany name documents)).2 := by
  induction documents generalizing s with
  | nil => exact .refl s
  | cons document rest ih =>
    rw [writes_insertMany_cons]
    exact (s.insert_changes name document).trans (ih _)

theorem getMany_unchanged (s : Store) (name : String) (keys : List String) :
    (s.answer (.getMany name keys)).2 = s := by
  show (collectFound (fun key s => s.look (s.find name key)) keys s).2 = s
  induction keys with
  | nil => rfl
  | cons key rest ih =>
    unfold collectFound
    split
    · rename_i asked
      exact (congrArg Prod.snd asked).symm
    · rename_i found t asked
      obtain rfl : s = t := congrArg Prod.snd asked
      split
      · rename_i e u later
        exact (congrArg Prod.snd later).symm.trans ih
      · rename_i documents u later
        exact (congrArg Prod.snd later).symm.trans ih

theorem execute_changes (s : Store) (q : BoundQuery) : Changes s [] (s.execute q).2 := by
  unfold execute
  split
  · exact .refl s
  · dsimp only
    split
    · exact .refl s
    · exact .aside rfl rfl

theorem nextBatch_changes (s : Store) (id : String) : Changes s [] (s.nextBatch id).2 := by
  unfold nextBatch
  split
  · exact .refl s
  · dsimp only
    split <;> exact .aside rfl rfl

theorem closeCursor_changes (s : Store) (id : String) : Changes s [] (s.closeCursor id).2 := by
  unfold closeCursor
  split
  · exact .aside rfl rfl
  · exact .refl s

theorem createCollection_changes (s : Store) (name : String) (options : CollectionOptions) :
    Changes s [] (s.createCollection name options).2 := by
  unfold createCollection
  split
  · exact .refl s
  · rename_i absent
    have unnamed := s.changes_ensureCollection name options
    rw [ensureCollection, if_neg absent] at unnamed
    exact unnamed

theorem deleteCollection_changes (s : Store) (name : String) (ignoreMissing : Bool) :
    Changes s [] (s.deleteCollection name ignoreMissing).2 := by
  unfold deleteCollection
  split
  · exact s.changes_erase name
  · exact .refl s

theorem truncateCollection_changes (s : Store) (name : String) :
    Changes s [] (s.truncateCollection name).2 := by
  unfold truncateCollection
  split
  · exact .refl s
  · rename_i c present
    refine changes_set rfl ?_
    rw [present]
    exact .thin rfl rfl (List.nil_sublist _)

theorem ensureIndex_changes (s : Store) (name : String) (i : IndexSpec) :
    Changes s [] (s.ensureIndex name i).2 := by
  unfold ensureIndex
  split
  · exact .refl s
  · rename_i c present
    split
    · exact .refl s
    · split
      · exact .refl s
      · rename_i distinct
        refine changes_set rfl ?_
        rw [present]
        exact .index (by simpa using distinct)

theorem ensureCollections_changes {α : Type} (name : α → String) (options : CollectionOptions) (items : List α)
    (s : Store) : Changes s [] (items.foldl (fun s a => s.ensureCollection (name a) options) s) := by
  induction items generalizing s with
  | nil => exact .refl s
  | cons a rest ih => exact (s.changes_ensureCollection (name a) options).trans (ih _)

theorem createGraph_changes (s : Store) (g : GraphDefinition) : Changes s [] (s.createGraph g).2 := by
  unfold createGraph
  split
  · exact .refl s
  · dsimp only
    have edges := ensureCollections_changes EdgeDefinition.edges .edge g.edgeDefinitions s
    have vertices := ensureCollections_changes id {} g.collections
      (g.edgeDefinitions.foldl (fun s d => s.ensureCollection d.edges .edge) s)
    exact (edges.trans vertices).trans (.aside rfl rfl)

theorem deleteGraph_changes (s : Store) (name : String) (ignoreMissing dropCollections : Bool) :
    Changes s [] (s.deleteGraph name ignoreMissing dropCollections).2 := by
  unfold deleteGraph
  split
  · exact .refl s
  · rename_i g present
    dsimp only
    exact (Changes.foldl changes_erase _ s).trans (.aside rfl rfl)

theorem removeIncidentEdges_changes (s : Store) (name vertex : String) :
    Changes s [] (s.removeIncidentEdges name vertex) :=
  Changes.foldl (fun s => s.changes_withoutEdgesAt vertex) _ s

theorem deleteVertex_changes (s : Store) (graph name key : String) (rev : Option String) (ignoreMissing : Bool) :
    Changes s [] (s.deleteVertex graph name key rev ignoreMissing).2 := by
  rcases s.deleteVertex_cases graph name key rev ignoreMissing with
    ⟨r, refused⟩ | nothing | ⟨c, stored, -, checked, done⟩
  · rw [refused]
    exact .refl s
  · rw [nothing]
    exact .refl s
  · rw [done]
    exact (changes_removed checked).trans (removeIncidentEdges_changes _ _ _)

theorem deleteEdge_changes (s : Store) (graph name key : String) (rev : Option String) (ignoreMissing : Bool) :
    Changes s [] (s.deleteEdge graph name key rev ignoreMissing).2 := by
  rcases s.deleteEdge_cases graph name key rev ignoreMissing with
    ⟨r, refused⟩ | nothing | ⟨d, c, stored, -, checked, done⟩
  · rw [refused]
    exact .refl s
  · rw [nothing]
    exact .refl s
  · rw [done]
    exact changes_removed checked

/-- Every request comes to edits of collections, and makes the writes of these edits. -/
theorem answer_changes (s : Store) (r : Request) : Changes s (s.writes r) (s.answer r).2 := by
  cases r with
  | hasCollection | count | get | keys | hasGraph => exact .refl s
  | getMany collection keys =>
    rw [getMany_unchanged]
    exact .refl s
  | insert collection document =>
    rw [s.writes_of_outcome collection (s.insert collection document) rfl]
    exact s.insert_changes collection document
  | insertMany collection documents => exact s.insertMany_changes collection documents
  | replace collection document =>
    rw [s.writes_of_outcome collection (s.replace collection document) rfl]
    exact s.replace_changes collection document
  | insertVertex graph collection document =>
    rw [s.writes_of_outcome collection (s.insertVertex graph collection document) rfl]
    exact after_changes _ (s.insert_changes collection document)
  | insertEdge graph collection document =>
    rw [s.writes_of_outcome collection (s.insertEdge graph collection document) rfl]
    exact after_changes _ (s.insert_changes collection document)
  | replaceVertex graph collection document =>
    rw [s.writes_of_outcome collection (s.replaceVertex graph collection document) rfl]
    exact after_changes _ (s.replace_changes collection document)
  | replaceEdge graph collection document =>
    rw [s.writes_of_outcome collection (s.replaceEdge graph collection document) rfl]
    exact after_changes _ (s.replace_changes collection document)
  | createCollection name options => exact s.createCollection_changes name options
  | deleteCollection name ignoreMissing => exact s.deleteCollection_changes name ignoreMissing
  | truncateCollection name => exact s.truncateCollection_changes name
  | ensureIndex collection i => exact s.ensureIndex_changes collection i
  | delete collection key rev ignoreMissing => exact s.delete_changes collection key rev ignoreMissing
  | execute q => exact s.execute_changes q
  | nextBatch id => exact s.nextBatch_changes id
  | closeCursor id => exact s.closeCursor_changes id
  | createGraph g => exact s.createGraph_changes g
  | deleteGraph name ignoreMissing dropCollections => exact s.deleteGraph_changes name ignoreMissing dropCollections
  | deleteVertex graph collection key rev ignoreMissing =>
    exact s.deleteVertex_changes graph collection key rev ignoreMissing
  | deleteEdge graph collection key rev ignoreMissing =>
    exact s.deleteEdge_changes graph collection key rev ignoreMissing

/-- Every run comes to edits of collections, and its history lists their writes. -/
theorem afterAll_changes (s : Store) (requests : List Request) :
    Changes s (s.history requests) (s.afterAll requests) := by
  induction requests generalizing s with
  | nil => exact .refl s
  | cons r rest ih => exact (s.answer_changes r).trans (ih (s.answer r).2)

end Store
end RecordStore
