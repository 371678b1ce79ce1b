import RecordStore.Proofs.Store.History

/-!
# Current documents

A write that succeeds leaves the document under the key of its header, stamped with it (`Stores`). Every document of a
run is stored under a legal key, and shows it together with its revision. A replacement that presents the
revision of the stored document can be refused only for what the new document says itself: for an end of an edge that it
lacks, or for values that another document has on a unique index.
-/

namespace RecordStore
namespace Store

/-! ### Keys -/

theorem isKey_toString (n : Nat) : isKey (toString n) = true := by
  have noSlash : '/' ∉ (toString n).toList := fun slash => by
    have digit := Nat.isDigit_of_mem_toDigits (by decide) (by decide) (Nat.toList_repr (n := n) ▸ slash)
    cases digit
  have nonempty : toString n ≠ "" := Nat.repr_ne_empty
  simpa [isKey, nonempty] using noSlash

theorem ne_empty_of_isKey {key : String} (legal : isKey key = true) : key ≠ "" := by
  rintro rfl
  cases legal

theorem isKey_of_given {name key : String} {c : Collection} {document : Document}
    (choice : keyChoice name c document = .given key) : isKey key = true := by
  unfold keyChoice at choice
  split at choice
  · cases choice
  · cases choice
  · split at choice
    · cases choice
    · split at choice
      · split at choice
        · rename_i legal
          obtain rfl := KeyChoice.given.inj choice
          exact legal
        · cases choice
      · cases choice

/-- A key that a document may be stored under: a legal one, or one that is in use. -/
def Keyable (s : Store) (name : String) (h : Header) : Prop :=
  isKey h.key = true ∨ ∃ stored, s.document? name h.key = some stored

theorem insert_isKey {s : Store} {name : String} {document : Document} {h : Header}
    (stored : (s.insert name document).1 = .ok h) : isKey h.key = true := by
  rcases s.insert_cases name document with ⟨r, n, -, refused⟩ | ⟨c, key, n, checked, done⟩
  · rw [refused] at stored
    cases stored
  · rw [done] at stored
    obtain rfl := Except.ok.inj stored
    rcases checked.choice with ⟨-, -, rfl⟩ | ⟨choice, -⟩
    · exact isKey_toString n
    · exact isKey_of_given choice

theorem replace_keyable {s : Store} {name : String} {document : Document} {h : Header}
    (stored : (s.replace name document).1 = .ok h) : s.Keyable name h := by
  rcases s.replace_cases name document with ⟨r, refused⟩ | ⟨c, key, old, checked, done⟩
  · rw [refused] at stored
    cases stored
  · rw [done] at stored
    obtain rfl := Except.ok.inj stored
    exact .inr ⟨old, document?_of_find? checked.present checked.found⟩

theorem header_of_after {P : Header → Prop} {s : Store} {check : Except Refusal Unit} {next : Store → Outcome Header}
    (each : ∀ h, (next s).1 = .ok h → P h) : ∀ h, (s.after check next).1 = .ok h → P h := by
  intro h stored
  rcases s.after_cases check next with ⟨r, -, refused⟩ | ⟨-, passed⟩
  · rw [refused] at stored
    cases stored
  · exact each h (passed ▸ stored)

theorem header_of_reply {P : Header → Prop} {outcome : Outcome Header} (each : ∀ h, outcome.1 = .ok h → P h) :
    ∀ h ∈ (reply outcome).1.toOption, P h := by
  intro h answered
  rw [toOption_reply] at answered
  obtain ⟨result, t⟩ := outcome
  cases result with
  | error e => cases answered
  | ok h' =>
    obtain rfl := Option.some.inj answered
    exact each _ rfl

theorem insertMany_isKey (s : Store) (name : String) (documents : List Document) :
    ∀ answer ∈ (s.answer (.insertMany name documents)).1, ∀ h ∈ answer.toOption, isKey h.key = true := by
  induction documents generalizing s with
  | nil => exact fun answer listed => absurd listed List.not_mem_nil
  | cons document rest ih =>
    intro answer listed
    rcases List.mem_cons.mp listed with rfl | later
    · exact header_of_reply fun h => insert_isKey
    · exact ih _ answer later

/-- No request is answered with the header of a key that is neither legal nor in use. -/
theorem header_keyable (s : Store) (r : Request) : ∀ h ∈ r.headers (s.answer r).1, s.Keyable r.target h := by
  cases r with
  | insert name document =>
    exact fun h listed => header_of_reply (fun h stored => .inl (insert_isKey stored)) h (Option.mem_toList.mp listed)
  | replace name document =>
    exact fun h listed => header_of_reply (fun h => replace_keyable) h (Option.mem_toList.mp listed)
  | insertVertex graph name document | insertEdge graph name document =>
    refine fun h listed => header_of_reply ?_ h (Option.mem_toList.mp listed)
    exact header_of_after fun h stored => .inl (insert_isKey stored)
  | replaceVertex graph name document | replaceEdge graph name document =>
    refine fun h listed => header_of_reply ?_ h (Option.mem_toList.mp listed)
    exact header_of_after fun h => replace_keyable
  | insertMany name documents =>
    intro h listed
    obtain ⟨answer, among, ok⟩ := List.mem_filterMap.mp listed
    exact .inl (insertMany_isKey s name documents answer among h ok)
  | _ => exact fun h listed => absurd listed List.not_mem_nil

theorem Traced.history_isKey {log : List Write} {s : Store} (traced : Traced log s)
    (legal : ∀ w ∈ log, isKey w.header.key = true) (requests : List Request) :
    ∀ w ∈ s.history requests, isKey w.header.key = true := by
  induction requests generalizing log s with
  | nil => exact fun w listed => absurd listed List.not_mem_nil
  | cons r rest ih =>
    have first : ∀ w ∈ s.writes r, isKey w.header.key = true := by
      intro w listed
      obtain ⟨h, answered, rfl⟩ := List.mem_map.mp listed
      rcases s.header_keyable r h answered with new | ⟨stored, found⟩
      · exact new
      · obtain ⟨v, logged, written⟩ := traced.write_of_document? found
        have legal := legal v logged
        rwa [written.key] at legal
    intro w listed
    refine (List.mem_append.mp listed).elim (first w) (ih (traced.changes (answer_changes s r)) ?_ w)
    exact fun v logged => (List.mem_append.mp logged).elim (legal v) (first v)

theorem isKey_of_document? (batchSize : Nat) (requests : List Request) {name key : String} {stored : Document}
    (found : ((empty batchSize).afterAll requests).document? name key = some stored) : isKey key = true := by
  obtain ⟨w, logged, here⟩ := (traced_afterAll batchSize requests).write_of_document? found
  have legal := (traced_empty batchSize).history_isKey (fun w listed => absurd listed List.not_mem_nil) requests
  have legal := legal w logged
  rwa [here.key] at legal

/-! ### Reading and replacing -/

theorem revision_ne_empty (n : Nat) : revision n ≠ "" := fun empty => by
  have long := congrArg String.length empty
  simp [revision] at long

theorem answer_get {s : Store} {name key : String} {stored : Document} (found : s.document? name key = some stored) :
    s.answer (.get name key) = (.ok (some stored), s) := by
  obtain ⟨c, present, here⟩ := Option.bind_eq_some_iff.mp found
  simp [answer, look, find, collection, present, here, Except.map, Except.mapError]

theorem document?_replaced {s : Store} {name key : String} {c : Collection} {stored : Document}
    (found : c.find? key = some stored) (document : Document) :
    (s.replaced name c key document).document? name key = some (stamp name key (s.revCounter + 1) document) := by
  simp [document?, replaced, setCollection, Collection.find?_put_self found]

theorem document?_inserted {s : Store} {name key : String} {c : Collection} (free : c.hasKey key = false) (n : Nat)
    (document : Document) :
    (s.inserted name c key n document).document? name key = some (stamp name key (s.revCounter + 1) document) := by
  simp [document?, inserted, setCollection, Collection.find?_push_self free]

/-- What a write that was answered with a header has left. -/
structure Stores (s : Store) (name : String) (document : Document) (h : Header) (t : Store) : Prop where
  header : h = ⟨idOf name h.key, h.key, revision (s.revCounter + 1)⟩
  stored : t.document? name h.key = some (stamp name h.key (s.revCounter + 1) document)

/-- A write under a key that was free. The store makes the key if the document brings none. -/
structure StoresNew (s : Store) (name : String) (document : Document) (h : Header) (t : Store) : Prop
    extends Stores s name document h t where
  free : s.document? name h.key = none
  key : document.get? Attribute.key = some (.string h.key) ∨
    (document.get? Attribute.key = none ∨ document.get? Attribute.key = some .null) ∧ h.key = toString t.keyCounter

/-- A write over a document whose revision was presented, if any was. -/
structure StoresOver (s : Store) (name : String) (document : Document) (h : Header) (t : Store) : Prop
    extends Stores s name document h t where
  key : document.text? Attribute.key = some h.key
  current : ∃ before, s.document? name h.key = some before ∧ isStale (presentedRev? document) before = false

theorem storesNew_of_insert {s t : Store} {name : String} {document : Document} {h : Header}
    (ok : s.insert name document = (.ok h, t)) : s.StoresNew name document h t := by
  rcases s.insert_cases name document with ⟨r, n, -, refused⟩ | ⟨c, key, n, checked, done⟩
  · cases ok.symm.trans refused
  · cases ok.symm.trans done
    refine ⟨⟨rfl, document?_inserted checked.free n document⟩, ?_, ?_⟩
    · exact Option.bind_eq_none_iff.mpr fun c' present => by
        obtain rfl := Option.some.inj (checked.present.symm.trans present)
        exact Collection.find?_eq_none_of_hasKey checked.free
    · rcases checked.choice with ⟨choice, -, rfl⟩ | ⟨choice, -⟩
      · exact .inr ⟨get?_key_of_assigned choice, rfl⟩
      · exact .inl (get?_key_of_given choice)

theorem storesOver_of_replace {s t : Store} {name : String} {document : Document} {h : Header}
    (ok : s.replace name document = (.ok h, t)) : s.StoresOver name document h t := by
  rcases s.replace_cases name document with ⟨r, refused⟩ | ⟨c, key, stored, checked, done⟩
  · cases ok.symm.trans refused
  · cases ok.symm.trans done
    refine ⟨⟨rfl, document?_replaced checked.found document⟩, checked.keyed, stored, ?_, checked.current⟩
    exact Option.bind_eq_some_iff.mpr ⟨c, checked.present, checked.found⟩

/-- A reason to refuse a document that lies in the document itself and in what else is stored. -/
def Rejects (s : Store) (name key : String) (document : Document) (e : StoreError) : Prop :=
  ∃ c, s.collections.get? name = some c ∧
    ((∃ field, missingEndpoint? c document = some field ∧ e = (Refusal.badEndpoint field).error) ∨
      ∃ index, c.clash? document key = some index ∧ e = (Refusal.notUnique name index.fields).error)

/-- A replacement that presents the revision of the stored document is refused only if the new document is rejected. -/
theorem replace_current {s : Store} {name key rev : String} {stored document : Document}
    (found : s.document? name key = some stored) (shown : stored.text? Attribute.rev = some rev) (named : key ≠ "")
    (keyed : document.text? Attribute.key = some key) (presented : document.text? Attribute.rev = some rev) :
    (∃ e, s.answer (.replace name document) = (.error e, s) ∧ s.Rejects name key document e) ∨
      ∃ c, s.answer (.replace name document) =
          (.ok ⟨idOf name key, key, revision (s.revCounter + 1)⟩, s.replaced name c key document) ∧
        c.find? key = some stored := by
  obtain ⟨c, present, here⟩ := Option.bind_eq_some_iff.mp found
  have key? : (document.text? Attribute.key).filter (fun key => key ≠ "") = some key := by simp [keyed, named]
  have current : isStale (presentedRev? document) stored = false := by
    unfold presentedRev? isStale
    rw [presented, shown]
    by_cases empty : rev = "" <;> simp [empty, Option.filter]
  show (∃ e, reply (s.replace name document) = _ ∧ _) ∨ ∃ c, reply (s.replace name document) = _ ∧ _
  unfold replace
  rw [key?]
  dsimp only
  rw [present]
  dsimp only
  cases ends : missingEndpoint? c document with
  | some field => exact .inl ⟨_, rfl, c, present, .inl ⟨field, ends, rfl⟩⟩
  | none =>
    dsimp only
    rw [here]
    dsimp only
    rw [current, if_neg Bool.false_ne_true]
    cases clash : c.clash? document key with
    | some index => exact .inl ⟨_, rfl, c, present, .inr ⟨index, clash, rfl⟩⟩
    | none =>
      refine .inr ⟨c, ?_, here⟩
      simp [replaced, setCollection, reply, Except.mapError]

end Store
end RecordStore
