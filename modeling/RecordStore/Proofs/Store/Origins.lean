import RecordStore.Proofs.Store.History
import RecordStore.Proofs.Table
import RecordStore.Proofs.Value.Order

/-!
# Where stored documents come from

Every document of a collection is one that a request of the run has brought, with the attributes of its write
(`stored_brought`). So what is true of all that requests bring, and is not spoilt by these attributes, is true of all that
is stored. One such thing is that objects have their attributes in order, without which the order of values would not be
one (`stored_ordered`).
-/

namespace RecordStore

namespace Request

def documents : Request → List Document
  | insert _ document | replace _ document => [document]
  | insertMany _ documents => documents
  | insertVertex _ _ document | insertEdge _ _ document => [document]
  | replaceVertex _ _ document | replaceEdge _ _ document => [document]
  | _ => []

end Request

namespace Store

/-- What is stored of some documents that were brought: one of them with the attributes of a write. -/
def Brought (documents : List Document) (stored : Document) : Prop :=
  ∃ document ∈ documents, ∃ name key rev, stored = stamp name key rev document

theorem Brought.mono {few many : List Document} {stored : Document} (brought : Brought few stored)
    (more : few ⊆ many) : Brought many stored :=
  let ⟨document, listed, same⟩ := brought
  ⟨document, more listed, same⟩

variable {w : Write} {stored : Document}

theorem brought_stampedWrite {s : Store} {name key : String} {document : Document}
    (written : (s.stampedWrite name key document).document = some stored) : Brought [document] stored :=
  ⟨document, List.mem_cons_self, name, key, s.revCounter + 1, (Option.some.inj written).symm⟩

theorem insert_brought {s : Store} {name : String} {document : Document}
    (made : w ∈ outcomeWrites name (s.insert name document)) (written : w.document = some stored) :
    Brought [document] stored := by
  rcases s.insert_cases name document with ⟨r, n, -, refused⟩ | ⟨c, key, n, checked, done⟩
  · rw [refused] at made
    cases made
  · rw [done] at made
    obtain rfl := List.mem_singleton.mp made
    rw [writeTo_inserted checked] at written
    exact brought_stampedWrite written

theorem replace_brought {s : Store} {name : String} {document : Document}
    (made : w ∈ outcomeWrites name (s.replace name document)) (written : w.document = some stored) :
    Brought [document] stored := by
  rcases s.replace_cases name document with ⟨r, refused⟩ | ⟨c, key, before, checked, done⟩
  · rw [refused] at made
    cases made
  · rw [done] at made
    obtain rfl := List.mem_singleton.mp made
    rw [writeTo_replaced checked] at written
    exact brought_stampedWrite written

theorem after_brought {s : Store} {name : String} {next : Store → Outcome Header} {document : Document}
    {check : Except Refusal Unit} (made : w ∈ outcomeWrites name (s.after check next))
    (brought : w ∈ outcomeWrites name (next s) → Brought [document] stored) : Brought [document] stored := by
  rcases s.after_cases check next with ⟨r, -, refused⟩ | ⟨-, passed⟩
  · rw [refused] at made
    cases made
  · exact brought (passed ▸ made)

theorem insertMany_brought {s : Store} {name : String} {documents : List Document}
    (made : w ∈ s.writes (.insertMany name documents)) (written : w.document = some stored) :
    Brought documents stored := by
  induction documents generalizing s with
  | nil => cases made
  | cons document rest ih =>
    rw [writes_insertMany_cons] at made
    rcases List.mem_append.mp made with first | later
    · exact (insert_brought first written).mono (by simp)
    · exact (ih later).mono (List.subset_cons_self document rest)

/-- A write stores a document that its request has brought. -/
theorem write_brought {s : Store} {r : Request} (made : w ∈ s.writes r) (written : w.document = some stored) :
    Brought r.documents stored := by
  cases r with
  | insert name document =>
    rw [s.writes_of_outcome name (s.insert name document) rfl] at made
    exact insert_brought made written
  | insertMany name documents => exact insertMany_brought made written
  | replace name document =>
    rw [s.writes_of_outcome name (s.replace name document) rfl] at made
    exact replace_brought made written
  | insertVertex graph name document =>
    rw [s.writes_of_outcome name (s.insertVertex graph name document) rfl] at made
    exact after_brought made fun made => insert_brought made written
  | insertEdge graph name document =>
    rw [s.writes_of_outcome name (s.insertEdge graph name document) rfl] at made
    exact after_brought made fun made => insert_brought made written
  | replaceVertex graph name document =>
    rw [s.writes_of_outcome name (s.replaceVertex graph name document) rfl] at made
    exact after_brought made fun made => replace_brought made written
  | replaceEdge graph name document =>
    rw [s.writes_of_outcome name (s.replaceEdge graph name document) rfl] at made
    exact after_brought made fun made => replace_brought made written
  | _ => cases made

theorem history_brought {s : Store} {requests : List Request} (made : w ∈ s.history requests)
    (written : w.document = some stored) : Brought (requests.flatMap Request.documents) stored := by
  induction requests generalizing s with
  | nil => cases made
  | cons r rest ih =>
    rw [List.flatMap_cons]
    rcases List.mem_append.mp made with first | later
    · exact (write_brought first written).mono (List.subset_append_left _ _)
    · exact (ih later).mono (List.subset_append_right _ _)

/-- Every document of a collection was brought by the run. -/
theorem stored_brought {batchSize : Nat} {requests : List Request} {s : Store}
    (reached : (empty batchSize).afterAll requests = s) {name : String} {c : Collection}
    (present : s.collections.get? name = some c) {document : Document} (listed : document ∈ c.contents) :
    Brought (requests.flatMap Request.documents) document := by
  have traced := reached ▸ traced_afterAll batchSize requests
  obtain ⟨entry, here, rfl⟩ := List.mem_map.mp listed
  obtain ⟨w, logged, written⟩ := (traced.traced name c present).stored entry here
  exact history_brought logged written.document

/-! ### Objects in order -/

theorem ordered_setText {document : Document} (ordered : (Value.object document).Ordered) (field text : String) :
    (Value.object (document.setText field text)).Ordered := by
  obtain ⟨ascending, values⟩ := Value.ordered_object.mp ordered
  refine Value.ordered_object.mpr ⟨Table.ascending_set ascending field _, fun entry listed => ?_⟩
  rcases Table.mem_of_mem_set listed with rfl | before
  · exact trivial
  · exact values entry before

theorem ordered_stamp {document : Document} (ordered : (Value.object document).Ordered) (name key : String)
    (rev : Nat) : (Value.object (stamp name key rev document)).Ordered :=
  ordered_setText (ordered_setText (ordered_setText ordered _ _) _ _) _ _

/-- Objects that are stored keep their attributes in order if those do that requests bring. -/
theorem stored_ordered {batchSize : Nat} {requests : List Request} {s : Store}
    (reached : (empty batchSize).afterAll requests = s)
    (maps : ∀ r ∈ requests, ∀ document ∈ r.documents, (Value.object document).Ordered) {name : String} {c : Collection}
    (present : s.collections.get? name = some c) : ∀ document ∈ c.contents, (Value.object document).Ordered := by
  intro stored listed
  obtain ⟨document, brought, name, key, rev, rfl⟩ := stored_brought reached present listed
  obtain ⟨r, asked, here⟩ := List.mem_flatMap.mp brought
  exact ordered_stamp (maps r asked document here) name key rev

end Store
end RecordStore
