import RecordStore.Record.Document

/-!
# Stamps of records

A record that is read from a document carries the key and the revision of that document, and the document that it is
written as shows them again. The types of records are open, so the first half is a law (`LawfulRecord`); the second one
is proved for all of them.
-/

namespace RecordStore

/-- A type of records that takes key and revision over from a document and whose hook leaves them alone. -/
class LawfulRecord (ρ : Type) [Record ρ] : Prop where
  stamp_decode : ∀ {document : Document} {r : ρ} {key rev : String}, Record.decode (.object document) = some r →
    document.text? Attribute.key = some key → document.text? Attribute.rev = some rev → Record.stamp r = ⟨some key, rev⟩
  stamp_beforeSave : ∀ (isNew : Bool) (context : SaveContext) (time : Nat) (r : ρ),
    Record.stamp (Record.beforeSave isNew context time r).2 = Record.stamp r

/-- A lawful type of records whose stamp can be set. -/
class StampedRecord (ρ : Type) [Record ρ] : Prop extends LawfulRecord ρ where
  stamp_restamp : ∀ (r : ρ) (s : Stamp), Record.stamp (Record.restamp r s) = s

namespace Stamp

theorem ofDocument?_of_texts {document : Document} {key rev : String}
    (keyed : document.text? Attribute.key = some key) (revised : document.text? Attribute.rev = some rev) :
    ofDocument? document = some ⟨some key, rev⟩ := by
  simp [ofDocument?, Document.optionalText?, Document.textOrEmpty?, Document.get?_of_text? keyed,
    Document.get?_of_text? revised, Value.asString?]

theorem shown {s : Stamp} {key rev : String} (stamped : s = ⟨some key, rev⟩) (written : rev ≠ "") (collection : String)
    (document : Document) :
    (s.mark (s.identify collection document)).text? Attribute.key = some key ∧
      (s.mark (s.identify collection document)).text? Attribute.rev = some rev := by
  subst stamped
  simp only [mark, identify, if_neg written]
  refine ⟨?_, Document.text?_setText_self ..⟩
  rw [Document.text?_setText_of_ne _ _ (by decide), Document.text?_setText_of_ne _ _ (by decide),
    Document.text?_setText_self]

end Stamp

namespace Ends

theorem text?_attach {ends : Ends} {d : Directory} {typeName : String} {document attached : Document}
    (ok : ends.attach d typeName document = .ok attached) {field : String} (notSource : Attribute.source ≠ field)
    (notTarget : Attribute.target ≠ field) : attached.text? field = document.text? field := by
  unfold attach at ok
  split at ok
  · cases ok
  · split at ok
    · cases ok
    · obtain rfl := Except.ok.inj ok
      rw [Document.text?_setText_of_ne _ _ notTarget, Document.text?_setText_of_ne _ _ notSource]

end Ends

namespace Record

variable {ρ : Type} [Record ρ]

theorem stamp_ofValue [LawfulRecord ρ] {document : Document} {r : ρ} {key rev : String}
    (read : ofValue (.object document) = .ok r) (keyed : document.text? Attribute.key = some key)
    (revised : document.text? Attribute.rev = some rev) : stamp r = ⟨some key, rev⟩ := by
  unfold ofValue at read
  split at read
  · rename_i decoded
    obtain rfl := Except.ok.inj read
    exact LawfulRecord.stamp_decode decoded keyed revised
  · cases read

/-- The document of a record that has been written shows its key and its revision. -/
theorem document_shows {r : ρ} {key rev : String} (stamped : stamp r = ⟨some key, rev⟩) (written : rev ≠ "")
    {d : Directory} {collection : String} {document : Document} (ok : Record.document r d collection = .ok document) :
    document.text? Attribute.key = some key ∧ document.text? Attribute.rev = some rev := by
  unfold Record.document at ok
  split at ok
  · cases ok
  · rename_i fields _
    obtain ⟨keyed, revised⟩ := Stamp.shown stamped written collection fields
    dsimp only at ok
    split at ok
    · obtain rfl := Except.ok.inj ok
      exact ⟨keyed, revised⟩
    · rw [Ends.text?_attach ok (by decide) (by decide), Ends.text?_attach ok (by decide) (by decide)]
      exact ⟨keyed, revised⟩

end Record

end RecordStore
