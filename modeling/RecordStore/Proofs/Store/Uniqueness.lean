import RecordStore.Proofs.Store.History
import RecordStore.Proofs.Text.Split
import RecordStore.Proofs.Value.Same

/-!
# Unique indexes

A unique index is checked before a document gets its key, identifier and revision. That is enough: an index on one
of these attributes tells all documents apart (`Traced`), and an index that the attributes do not show in sees the
same values before and after (`values?_stamp`). Only a path that goes on below the identifier or the revision could
see other values.
-/

namespace RecordStore

namespace IndexSpec

/-- No indexed path goes on below the identifier or the revision. -/
def StaysAbove (i : IndexSpec) : Prop :=
  ∀ field ∈ i.fields, ¬"_id.".toList <+: field.toList ∧ ¬"_rev.".toList <+: field.toList

/-- Whether a path is one of the attributes that the store writes. -/
def IsSystem (path : List String) : Prop :=
  path = [Attribute.key] ∨ path = [Attribute.id] ∨ path = [Attribute.rev]

theorem prefix_of_path {field : String} (first : List Char) {second : String} {rest : List String}
    (path : path field = String.ofList first :: second :: rest) : first ++ ['.'] <+: field.toList := by
  unfold IndexSpec.path at path
  cases pieces : Text.splitBy (· = '.') field.toList with
  | nil => exact absurd pieces (Text.splitBy_ne_nil _ _)
  | cons p ps =>
    cases ps with
    | nil => simp [pieces] at path
    | cons q more =>
      simp only [pieces, List.map_cons, List.cons.injEq] at path
      obtain ⟨c, tail, whole, isCut, -⟩ := Text.splitBy_cons_cons pieces
      obtain rfl : p = first := String.ofList_inj.mp path.1
      obtain rfl : c = '.' := by simpa using isCut
      exact ⟨tail, by rw [whole]; simp⟩

end IndexSpec

namespace Store

/-! ### What an index sees of the system attributes -/

theorem lookup_cons (document : Document) (first : String) (rest : List String) :
    (Value.object document).lookup (first :: rest) = ((document.get? first).getD .null).lookup rest := rfl

theorem lookup_string (text : String) (first : String) (rest : List String) :
    (Value.string text).lookup (first :: rest) = .null := Value.lookup_null rest

/-- A path sees the same before and after a document is stamped, unless it is a system attribute or goes on below
the identifier or the revision. -/
theorem lookup_stamp {name key : String} {rev : Nat} {document : Document}
    (keyed : document.get? Attribute.key = none ∨ document.get? Attribute.key = some .null ∨
      document.get? Attribute.key = some (.string key)) {path : List String} (nonempty : path ≠ [])
    (plain : ¬IndexSpec.IsSystem path) (notId : ∀ second rest, path ≠ Attribute.id :: second :: rest)
    (notRev : ∀ second rest, path ≠ Attribute.rev :: second :: rest) :
    (Value.object (stamp name key rev document)).lookup path = (Value.object document).lookup path := by
  obtain ⟨first, rest, rfl⟩ := List.exists_cons_of_ne_nil nonempty
  rw [lookup_cons, lookup_cons]
  by_cases isKey : first = Attribute.key
  · subst isKey
    obtain ⟨second, more, rfl⟩ : ∃ second more, rest = second :: more := by
      cases rest with
      | nil => exact absurd (.inl rfl) plain
      | cons second more => exact ⟨second, more, rfl⟩
    rw [Document.get?_of_text? (text?_key_stamp name key rev document), Option.getD_some, lookup_string]
    rcases keyed with none | null | given
    · rw [none, Option.getD_none, Value.lookup_null]
    · rw [null, Option.getD_some, Value.lookup_null]
    · rw [given, Option.getD_some, lookup_string]
  · have isNoId : first ≠ Attribute.id := by
      rintro rfl
      cases rest with
      | nil => exact plain (.inr (.inl rfl))
      | cons second more => exact notId second more rfl
    have isNoRev : first ≠ Attribute.rev := by
      rintro rfl
      cases rest with
      | nil => exact plain (.inr (.inr rfl))
      | cons second more => exact notRev second more rfl
    rw [get?_stamp_of_ne name key rev document isKey isNoId isNoRev]

/-- An index without system attributes that stays above them sees the same values before and after. -/
theorem values?_stamp {i : IndexSpec} (above : i.StaysAbove)
    (plain : ∀ field ∈ i.fields, ¬IndexSpec.IsSystem (IndexSpec.path field)) {name key : String} {rev : Nat}
    {document : Document}
    (keyed : document.get? Attribute.key = none ∨ document.get? Attribute.key = some .null ∨
      document.get? Attribute.key = some (.string key)) :
    i.values? (stamp name key rev document) = i.values? document := by
  have same : i.fields.map (fun field =>
        (Value.object (stamp name key rev document)).lookup (IndexSpec.path field)) =
      i.fields.map fun field => (Value.object document).lookup (IndexSpec.path field) := by
    refine List.map_congr_left fun field listed => ?_
    have nonempty : IndexSpec.path field ≠ [] := by
      simpa [IndexSpec.path] using Text.splitBy_ne_nil _ _
    refine lookup_stamp keyed nonempty (plain field listed) (fun second rest path => ?_) fun second rest path => ?_
    · exact (above field listed).1 (IndexSpec.prefix_of_path "_id".toList path)
    · exact (above field listed).2 (IndexSpec.prefix_of_path "_rev".toList path)
  unfold IndexSpec.values?
  rw [same]

/-! ### Indexes on system attributes -/

theorem clash_comm (i : IndexSpec) (a b : Document) : i.clash a b = i.clash b a := by
  unfold IndexSpec.clash
  cases i.values? a <;> cases i.values? b <;> simp [Value.sameItems_comm]

theorem values?_eq_map {i : IndexSpec} {document : Document} {values : List Value}
    (covered : i.values? document = some values) :
    values = i.fields.map fun field => (Value.object document).lookup (IndexSpec.path field) := by
  unfold IndexSpec.values? at covered
  dsimp only at covered
  split at covered
  · cases covered
  · exact (Option.some.inj covered).symm

theorem same_text {a b : Document} {field : String} {s t : String} (readA : a.text? field = some s)
    (readB : b.text? field = some t)
    (same : ((Value.object a).lookup [field]).same ((Value.object b).lookup [field]) = true) : s = t := by
  rw [lookup_cons, lookup_cons, Document.get?_of_text? readA, Document.get?_of_text? readB] at same
  simpa [Value.lookup, Value.same] using same

theorem idOf_injective {name k l : String} (same : idOf name k = idOf name l) : k = l := by
  have chars := congrArg String.toList same
  exact String.toList_inj.mp (by simpa [idOf] using chars)

/-- Documents under different keys differ in every system attribute. -/
theorem system_apart {log : List Write} {s : Store} (traced : Traced log s) {name : String} {c : Collection}
    (present : s.collections.get? name = some c) {i : IndexSpec} {field : String} (listed : field ∈ i.fields)
    (system : IndexSpec.IsSystem (IndexSpec.path field)) {a b : String × Document} (storedA : a ∈ c.documents)
    (storedB : b ∈ c.documents) (different : a.1 ≠ b.1) : i.clash a.2 b.2 = false := by
  obtain ⟨v, loggedV, writtenV⟩ := (traced.traced name c present).stored a storedA
  obtain ⟨w, loggedW, writtenW⟩ := (traced.traced name c present).stored b storedB
  cases clash : i.clash a.2 b.2 with
  | false => rfl
  | true =>
    refine absurd ?_ different
    unfold IndexSpec.clash at clash
    split at clash
    · rename_i u u' coveredA coveredB
      rw [values?_eq_map coveredA, values?_eq_map coveredB] at clash
      have same := Value.same_of_sameItems_map clash field listed
      rcases system with path | path | path <;> rw [path] at same
      · exact same_text writtenV.keyAttribute writtenW.keyAttribute same
      · exact idOf_injective (same_text writtenV.idAttribute writtenW.idAttribute same)
      · have rev := same_text writtenV.revAttribute writtenW.revAttribute same
        obtain rfl := traced.write_eq loggedV loggedW rev
        exact writtenV.key.symm.trans writtenW.key
    · cases clash

/-! ### Indexes on other attributes -/

/-- An index whose values do not change when a document is stamped. -/
structure Settled (i : IndexSpec) : Prop where
  unique : i.unique = true
  above : i.StaysAbove
  plain : ∀ field ∈ i.fields, ¬IndexSpec.IsSystem (IndexSpec.path field)

/-- No two documents of a collection clash on such an index. -/
def Apart (c : Collection) : Prop :=
  ∀ i ∈ c.indexes, Settled i → c.documents.Pairwise fun a b => i.clash a.2 b.2 = false

theorem clash_of_clear {c : Collection} {document : Document} {key : String}
    (clear : c.clash? document key = none) {i : IndexSpec} (listed : i ∈ c.indexes) (unique : i.unique = true)
    {entry : String × Document} (stored : entry ∈ c.documents) (other : entry.1 ≠ key) :
    i.clash document entry.2 = false := by
  have passed := List.find?_eq_none.mp clear i listed
  rw [unique, Bool.true_and, List.any_eq_true, not_exists] at passed
  cases clash : i.clash document entry.2 with
  | false => rfl
  | true => exact absurd ⟨stored, by simp [other, clash]⟩ (passed entry)

theorem pairwise_of_hasRepetition {tuples : List (List Value)} (distinct : hasRepetition tuples = false) :
    tuples.Pairwise fun u v => Value.sameItems u v = false := by
  induction tuples with
  | nil => exact .nil
  | cons values rest ih =>
    rw [hasRepetition, Bool.or_eq_false_iff] at distinct
    refine .cons (fun other later => ?_) (ih distinct.2)
    simpa using List.any_eq_false.mp distinct.1 other later

theorem apart_of_hasRepetition {c : Collection} {i : IndexSpec}
    (distinct : hasRepetition (c.contents.filterMap i.values?) = false) :
    c.documents.Pairwise fun a b => i.clash a.2 b.2 = false := by
  have tuples := pairwise_of_hasRepetition distinct
  rw [List.pairwise_filterMap, Collection.contents, List.pairwise_map] at tuples
  refine tuples.imp fun {a b} apart => ?_
  unfold IndexSpec.clash
  split
  · rename_i u v coveredA coveredB
    exact apart u coveredA v coveredB
  · rfl

theorem pairwise_replaceFirst {R : String × Document → String × Document → Prop} {key : String}
    {document : Document} {documents : List (String × Document)} (keyed : (documents.map Prod.fst).Nodup)
    (pairwise : documents.Pairwise R)
    (before : ∀ entry ∈ documents, entry.1 ≠ key → R entry (key, document))
    (after : ∀ entry ∈ documents, entry.1 ≠ key → R (key, document) entry) :
    (Collection.replaceFirst key document documents).Pairwise R := by
  induction documents with
  | nil => exact .nil
  | cons first rest ih =>
    obtain ⟨k, d⟩ := first
    rw [List.map_cons, List.nodup_cons] at keyed
    obtain ⟨toFirst, later⟩ := List.pairwise_cons.mp pairwise
    unfold Collection.replaceFirst
    split
    · rename_i same
      subst same
      refine .cons (fun entry here => after entry (List.mem_cons_of_mem _ here) fun same => keyed.1 ?_) later
      exact List.mem_map.mpr ⟨entry, here, same⟩
    · rename_i different
      refine .cons (fun entry here => ?_) (ih keyed.2 later
        (fun entry here => before entry (List.mem_cons_of_mem _ here))
        (fun entry here => after entry (List.mem_cons_of_mem _ here)))
      rcases Collection.mem_replaceFirst keyed.2 here with rfl | ⟨old, -⟩
      · exact before (k, d) List.mem_cons_self different
      · exact toFirst entry old

theorem Apart.edit {name : String} {revs revs' : Nat} {old new : Option Collection} {ws : List Write}
    (edit : Edit name revs old ws new revs') (keyed : ∀ c, old = some c → c.keys.Nodup)
    (apart : ∀ c, old = some c → Apart c) : ∀ c, new = some c → Apart c := by
  rintro c rfl
  cases edit with
  | keep => exact apart c rfl
  | create options => exact fun i listed => absurd listed List.not_mem_nil
  | thin options indexes fewer =>
    intro i listed settled
    exact (apart _ rfl i (indexes ▸ listed) settled).sublist fewer
  | @index c i distinct =>
    intro j listed settled
    rcases List.mem_append.mp listed with before | added
    · exact apart c rfl j before settled
    · obtain rfl := List.mem_singleton.mp added
      exact apart_of_hasRepetition (distinct settled.unique)
  | @insert c key document ends keyedDocument free clear =>
    intro i listed settled
    refine List.pairwise_append.mpr ⟨apart c rfl i listed settled, List.pairwise_singleton _ _, ?_⟩
    intro entry stored new isNew
    obtain rfl := List.mem_singleton.mp isNew
    have other := Collection.hasKey_eq_false.mp free entry stored
    -- the document was checked before it was stamped, which changes no value that the index reads
    rw [clash_comm, IndexSpec.clash, values?_stamp settled.above settled.plain keyedDocument]
    exact clash_of_clear clear listed settled.unique stored other
  | @replace c key stored document ends keyedDocument found clear =>
    intro i listed settled
    have apartFromNew : ∀ entry ∈ c.documents, entry.1 ≠ key →
        i.clash (stamp name key (revs + 1) document) entry.2 = false := by
      intro entry here other
      rw [IndexSpec.clash, values?_stamp settled.above settled.plain (.inr (.inr keyedDocument))]
      exact clash_of_clear clear listed settled.unique here other
    refine pairwise_replaceFirst (keyed c rfl) (apart c rfl i listed settled) (fun entry here other => ?_)
      apartFromNew
    rw [clash_comm]
    exact apartFromNew entry here other

theorem apart_changes {log ws : List Write} {s t : Store} (traced : Traced log s) (changes : Changes s ws t)
    (apart : ∀ name c, s.collections.get? name = some c → Apart c) :
    ∀ name c, t.collections.get? name = some c → Apart c := by
  induction changes with
  | refl => exact apart
  | @tail t u ws vs changed before last ih =>
    intro name c present
    by_cases same : name = changed
    · subst same
      exact Apart.edit last.here (fun d here => ((traced.changes before).traced name d here).keyed) (ih name) c present
    · rw [last.elsewhere name same] at present
      exact ih name c present

/-- No two documents clash on a unique index, in every state that a run from an empty store leads to. -/
theorem documents_apart (batchSize : Nat) (requests : List Request) {name : String} {c : Collection}
    (present : ((empty batchSize).afterAll requests).collections.get? name = some c) {i : IndexSpec}
    (listed : i ∈ c.indexes) (unique : i.unique = true) (above : i.StaysAbove) :
    c.documents.Pairwise fun a b => i.clash a.2 b.2 = false := by
  have traced := traced_afterAll batchSize requests
  by_cases system : ∃ field ∈ i.fields, IndexSpec.IsSystem (IndexSpec.path field)
  · obtain ⟨field, indexed, isSystem⟩ := system
    have keys : c.documents.Pairwise fun a b => a.1 ≠ b.1 :=
      List.pairwise_map.mp (traced.traced name c present).keyed
    exact keys.imp_of_mem fun storedA storedB different =>
      system_apart traced present indexed isSystem storedA storedB different
  · have start : ∀ name c, (empty batchSize).collections.get? name = some c → Apart c := by
      intro name c present
      cases present
    exact apart_changes (traced_empty batchSize) (afterAll_changes _ requests) start name c present i listed
      ⟨unique, above, fun field indexed isSystem => system ⟨field, indexed, isSystem⟩⟩

/-- Unique indexes are unique, in every state that a run from an empty store leads to: no two documents that an index
covers have the same values in it. -/
theorem unique_index_separates (batchSize : Nat) (requests : List Request) {name : String} {c : Collection}
    (present : ((empty batchSize).afterAll requests).collections.get? name = some c) {i : IndexSpec}
    (listed : i ∈ c.indexes) (unique : i.unique = true) (above : i.StaysAbove) :
    c.documents.Pairwise fun a b => ∀ u v, i.values? a.2 = some u → i.values? b.2 = some v →
      Value.sameItems u v = false := by
  refine (documents_apart batchSize requests present listed unique above).imp fun {a b} apart u v coveredA coveredB => ?_
  simpa only [IndexSpec.clash, coveredA, coveredB] using apart

/-- An index over a key and an attribute, and three documents of which it covers two. -/
theorem sparse_index_separates :
    let index : IndexSpec := { fields := ["_key", "a.b"], unique := true, sparse := true }
    let run : List Request := [.createCollection "c" {}, .ensureIndex "c" index,
      .insertMany "c" [[("a", .object [("b", .ofNat 1)])], [("a", .object [("b", .ofNat 1)])], []]]
    ∃ c, ((empty 1).afterAll run).collections.get? "c" = some c ∧ index ∈ c.indexes ∧ index.unique = true ∧
      index.StaysAbove ∧ c.documents.length = 3 ∧
      c.documents.Pairwise fun a b => ∀ u v, index.values? a.2 = some u → index.values? b.2 = some v →
        Value.sameItems u v = false := by
  intro index run
  have above : index.StaysAbove := by simp [IndexSpec.StaysAbove, index]
  have state : (((empty 1).afterAll run).collections.get? "c").any (fun c =>
      decide (index ∈ c.indexes ∧ c.documents.length = 3)) = true := by decide +kernel
  obtain ⟨c, present, facts⟩ := (Option.any_eq_true _ _).mp state
  obtain ⟨listed, three⟩ := of_decide_eq_true facts
  exact ⟨c, present, listed, rfl, above, three, unique_index_separates 1 run present listed rfl above⟩

end Store
end RecordStore
