import RecordStore.Proofs.Record.Stamp
import RecordStore.Proofs.Store.Documents
import RecordStore.Proofs.Table

/-!
# What a record is stored as

Three parties write system attributes: the record's own value may bring some, the document of the record sets or
removes them, and the store puts those of the write over them. In the end the header of the write and the
identifiers of an edge's ends stand over the record's own attributes, and nothing else has changed (`get?_stamp`,
`stamp_eq`).
-/

namespace RecordStore

namespace Header

/-- A document with a header over its own attributes. -/
def overlay (h : Header) (document : Document) : Document :=
  ((document.setText Attribute.key h.key).setText Attribute.id h.id).setText Attribute.rev h.rev

theorem get?_overlay (h : Header) (document : Document) (field : String) :
    (h.overlay document).get? field =
      if Attribute.rev = field then some (.string h.rev)
      else if Attribute.id = field then some (.string h.id)
      else if Attribute.key = field then some (.string h.key)
      else document.get? field := by
  simp only [overlay, Document.setText, Table.get?_set]

theorem ascending_overlay (h : Header) {document : Document} (ascending : Table.Ascending document) :
    Table.Ascending (h.overlay document) :=
  Table.ascending_set (Table.ascending_set (Table.ascending_set ascending _ _) _ _) _ _

end Header

namespace Ends

/-- The identifiers that the ends stand for, if both stand for one. -/
def names? (ends : Ends) (d : Directory) : Option (String × String) :=
  (ends.source.resolve d).bind fun source => (ends.target.resolve d).map fun target => (source, target)

def named (names : String × String) : Ends := ⟨.id names.1, .id names.2⟩

/-- A document with the identifiers of ends, if there are any, over its own attributes. -/
def overlay : Option (String × String) → Document → Document
  | none, document => document
  | some (source, target), document =>
    (document.setText Attribute.source source).setText Attribute.target target

theorem attach_ok {ends : Ends} {d : Directory} {typeName : String} {document attached : Document}
    (ok : ends.attach d typeName document = .ok attached) :
    ∃ names, ends.names? d = some names ∧ attached = overlay (some names) document := by
  unfold attach at ok
  split at ok
  · cases ok
  · rename_i source resolved
    split at ok
    · cases ok
    · rename_i target resolved'
      obtain rfl := Except.ok.inj ok
      exact ⟨(source, target), by simp [names?, resolved, resolved'], rfl⟩

theorem get?_overlay (names? : Option (String × String)) (document : Document) {field : String}
    (notSource : Attribute.source ≠ field) (notTarget : Attribute.target ≠ field) :
    (overlay names? document).get? field = document.get? field := by
  cases names? with
  | none => rfl
  | some names => simp only [overlay, Document.setText, Table.get?_set, if_neg notSource, if_neg notTarget]

theorem get?_overlay_congr (names? : Option (String × String)) {document other : Document} {field : String}
    (same : document.get? field = other.get? field) :
    (overlay names? document).get? field = (overlay names? other).get? field := by
  cases names? with
  | none => exact same
  | some names => simp only [overlay, Document.setText, Table.get?_set, same]

theorem ascending_overlay (names? : Option (String × String)) {document : Document}
    (ascending : Table.Ascending document) : Table.Ascending (overlay names? document) := by
  cases names? with
  | none => exact ascending
  | some names => exact Table.ascending_set (Table.ascending_set ascending _ _) _ _

end Ends

namespace Stamp

/-- What the stamp of a record leaves alone in its document. -/
theorem get?_mark_identify (s : Stamp) (collection : String) (document : Document) {field : String}
    (notKey : Attribute.key ≠ field) (notId : Attribute.id ≠ field) (notRev : Attribute.rev ≠ field) :
    (s.mark (s.identify collection document)).get? field = document.get? field := by
  have identified : (s.identify collection document).get? field = document.get? field := by
    unfold identify
    split
    · simp only [Document.setText, Table.get?_set, if_neg notKey, if_neg notId]
    · rw [Table.get?_erase_of_ne _ notId, Table.get?_erase_of_ne _ notKey]
  unfold mark
  split
  · rw [Table.get?_erase_of_ne _ notRev, identified]
  · rw [Document.setText, Table.get?_set, if_neg notRev, identified]

theorem ascending_mark_identify (s : Stamp) (collection : String) {document : Document}
    (ascending : Table.Ascending document) : Table.Ascending (s.mark (s.identify collection document)) := by
  have identified : Table.Ascending (s.identify collection document) := by
    unfold identify
    split
    · exact Table.ascending_set (Table.ascending_set ascending _ _) _ _
    · exact Table.ascending_erase (Table.ascending_erase ascending _) _
  unfold mark
  split
  · exact Table.ascending_erase identified _
  · exact Table.ascending_set identified _ _

end Stamp

namespace Record

/-- What a record with certain attributes is stored as: the header of the write and the identifiers of an edge's ends
stand over the attributes. -/
def written (fields : Document) (h : Header) (names? : Option (String × String)) : Document :=
  h.overlay (Ends.overlay names? fields)

variable {ρ : Type} [Record ρ]

/-- The identifiers that the ends of an edge stand for. -/
def names? (r : ρ) (d : Directory) : Option (String × String) :=
  (ends? r).bind (·.names? d)

theorem document_ok {r : ρ} {d : Directory} {collection : String} {document : Document}
    (ok : Record.document r d collection = .ok document) :
    ∃ fields, Record.fields r = .ok fields ∧ (names? r d).isSome = (ends? r).isSome ∧
      document = Ends.overlay (names? r d) ((stamp r).mark ((stamp r).identify collection fields)) := by
  unfold Record.document at ok
  split at ok
  · cases ok
  · rename_i fields encoded
    dsimp only at ok
    split at ok
    · rename_i none
      obtain rfl := Except.ok.inj ok
      exact ⟨fields, encoded, by simp [names?, none], by simp [names?, none, Ends.overlay]⟩
    · rename_i ends some
      obtain ⟨names, resolved, rfl⟩ := Ends.attach_ok ok
      exact ⟨fields, encoded, by simp [names?, some, resolved], by simp [names?, some, resolved]⟩

section Made

variable {r : ρ} {d : Directory} {collection : String} {fields document : Document}
  (made : document = Ends.overlay (names? r d) ((stamp r).mark ((stamp r).identify collection fields)))
include made

theorem get?_key_made : document.get? Attribute.key = (key r).map .string := by
  have marked : ((stamp r).mark ((stamp r).identify collection fields)).get? Attribute.key = (key r).map .string := by
    have identified : ((stamp r).identify collection fields).get? Attribute.key = (key r).map .string := by
      unfold Stamp.identify key
      cases (stamp r).key with
      | none => rw [Table.get?_erase_of_ne _ (by decide), Table.get?_erase_self]; rfl
      | some key => simp [Document.setText, Table.get?_set, Attribute.id, Attribute.key]
    unfold Stamp.mark
    split
    · rw [Table.get?_erase_of_ne _ (by decide), identified]
    · rw [Document.setText, Table.get?_set_of_ne _ _ (by decide), identified]
  rw [made, Ends.get?_overlay _ _ (by decide) (by decide), marked]

theorem presentedRev?_made : Store.presentedRev? document = rev? r := by
  have marked : ((stamp r).mark ((stamp r).identify collection fields)).get? Attribute.rev =
      (rev? r).map .string := by
    unfold Stamp.mark rev? rev
    split
    · rw [Table.get?_erase_self]; rfl
    · rw [Document.setText, Table.get?_set_self]; rfl
  rw [Store.presentedRev?, Document.text?, made, Ends.get?_overlay _ _ (by decide) (by decide), marked]
  unfold rev?
  split <;> simp_all [Value.asString?, Option.filter]

/-- Every attribute of a stored record is one of the write, one of its ends, or its own. -/
theorem get?_stamp (name key : String) (n : Nat) (field : String) :
    (Store.stamp name key n document).get? field =
      (written fields ⟨Store.idOf name key, key, Store.revision n⟩ (names? r d)).get? field := by
  show (Header.overlay ⟨Store.idOf name key, key, Store.revision n⟩ document).get? field = _
  rw [written, Header.get?_overlay, Header.get?_overlay]
  by_cases rev : Attribute.rev = field
  · rw [if_pos rev, if_pos rev]
  · by_cases id : Attribute.id = field
    · rw [if_neg rev, if_neg rev, if_pos id, if_pos id]
    · by_cases isKey : Attribute.key = field
      · rw [if_neg rev, if_neg rev, if_neg id, if_neg id, if_pos isKey, if_pos isKey]
      · rw [if_neg rev, if_neg rev, if_neg id, if_neg id, if_neg isKey, if_neg isKey, made]
        exact Ends.get?_overlay_congr _ (Stamp.get?_mark_identify _ _ _ isKey id rev)

/-- A record whose attributes are in order is stored in order. -/
theorem stamp_eq (ascending : Table.Ascending fields) (name key : String) (n : Nat) :
    Store.stamp name key n document =
      written fields ⟨Store.idOf name key, key, Store.revision n⟩ (names? r d) := by
  have stored : Table.Ascending (Store.stamp name key n document) :=
    Header.ascending_overlay ⟨_, key, _⟩ (made ▸ Ends.ascending_overlay _ (Stamp.ascending_mark_identify _ _ ascending))
  exact stored.ext (Header.ascending_overlay _ (Ends.ascending_overlay _ ascending)) (get?_stamp made name key n)

end Made

end Record

end RecordStore
