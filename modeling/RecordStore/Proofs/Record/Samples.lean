import RecordStore.Proofs.Record.Stamp
import RecordStore.Sample.Edges
import RecordStore.Sample.Raw
import RecordStore.Sample.Vertices

/-!
# Lawful sample types

Every sample type takes the stamp of its records over from their documents, and no hook of theirs touches it.
-/

namespace RecordStore
namespace Sample

variable {ρ : Type} [Record ρ] {document : Document} {r : ρ} {key rev : String}

/-- Most types read the stamp of a document first and keep it. -/
theorem stamp_of_read {rest : Stamp → Option ρ} (read : (Stamp.ofDocument? document).bind rest = some r)
    (keeps : ∀ s, rest s = some r → Record.stamp r = s) (keyed : document.text? Attribute.key = some key)
    (revised : document.text? Attribute.rev = some rev) : Record.stamp r = ⟨some key, rev⟩ := by
  rw [Stamp.ofDocument?_of_texts keyed revised] at read
  exact keeps _ read

instance : LawfulRecord Identity where
  stamp_decode decoded := stamp_of_read decoded fun s read => by
    obtain ⟨name, -, same⟩ := Option.bind_eq_some_iff.mp read
    obtain rfl := Option.some.inj same
    rfl
  stamp_beforeSave _ _ _ _ := rfl

instance : LawfulRecord ExtendedIdentity where
  stamp_decode decoded := stamp_of_read decoded fun s read => by
    obtain ⟨name, -, read⟩ := Option.bind_eq_some_iff.mp read
    obtain ⟨extra, -, read⟩ := Option.bind_eq_some_iff.mp read
    obtain ⟨sub, -, read⟩ := Option.bind_eq_some_iff.mp read
    obtain ⟨times, -, same⟩ := Option.bind_eq_some_iff.mp read
    obtain rfl := Option.some.inj same
    rfl
  stamp_beforeSave _ _ _ _ := rfl

instance : LawfulRecord Person where
  stamp_decode decoded := stamp_of_read decoded fun s read => by
    obtain ⟨name, -, same⟩ := Option.bind_eq_some_iff.mp read
    obtain rfl := Option.some.inj same
    rfl
  stamp_beforeSave _ _ _ _ := rfl

instance (name field : String) : LawfulRecord (TextEdge name field) where
  stamp_decode decoded := stamp_of_read decoded fun s read => by
    obtain ⟨source, -, read⟩ := Option.bind_eq_some_iff.mp read
    obtain ⟨target, -, read⟩ := Option.bind_eq_some_iff.mp read
    obtain ⟨text, -, same⟩ := Option.bind_eq_some_iff.mp read
    obtain rfl := Option.some.inj same
    rfl
  stamp_beforeSave _ _ _ _ := rfl

instance : LawfulRecord Raw where
  stamp_decode decoded keyed revised := by
    obtain rfl := Option.some.inj decoded
    show (⟨Document.text? _ Attribute.key, (Document.text? _ Attribute.rev).getD ""⟩ : Stamp) = _
    simp [Value.asObject?, keyed, revised]
  stamp_beforeSave isNew context time r := by
    show (Raw.beforeSave isNew context time r).2.stamp = r.stamp
    unfold Raw.beforeSave
    split
    · rfl
    · split
      · unfold Raw.mark
        split <;> rfl
      · rfl

instance : StampedRecord Identity where
  stamp_restamp _ _ := rfl

instance : StampedRecord ExtendedIdentity where
  stamp_restamp _ _ := rfl

instance : StampedRecord Person where
  stamp_restamp _ _ := rfl

instance (name field : String) : StampedRecord (TextEdge name field) where
  stamp_restamp _ _ := rfl

instance : StampedRecord Raw where
  stamp_restamp _ _ := rfl

end Sample
end RecordStore
