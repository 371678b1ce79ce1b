import RecordStore.Proofs.Record.Samples
import RecordStore.Proofs.Record.Written
import RecordStore.Sample.Graphs

/-!
# Reading records back

A decoder looks at some attributes only. On those the document of a stored record shows what the record wrote, or the
header of the write, or the identifiers of its ends. So each sample type but the raw one, whose records are read with
all of the document for their value, reads back what was written (`Kind.decode_written`).
-/

namespace RecordStore

@[simp] theorem get?_attributeIfAny (field : String) (value : Option Value) (key : String) :
    (Table.ofList (attributeIfAny field value)).get? key = if field = key then value else none := by
  cases value with
  | none => simp [attributeIfAny, Table.ofList]
  | some value => exact Table.get?_ofList_cons field value [] key

namespace Attribute

/-- An attribute of a record's own: those of the store start with an underscore. -/
def IsOwn (field : String) : Prop := field.toList.head? ≠ some '_'

instance (field : String) : Decidable (IsOwn field) := inferInstanceAs (Decidable (_ ≠ _))

theorem IsOwn.ne {field system : String} (own : IsOwn field) (first : system.toList.head? = some '_') :
    system ≠ field := by
  rintro rfl
  exact own first

end Attribute

theorem Stamp.get?_attributes (s : Stamp) {field : String} (own : Attribute.IsOwn field) :
    (Table.ofList s.attributes).get? field = none := by
  rw [attributes, Table.get?_ofList_append, Table.get?_ofList_cons, if_neg (own.ne rfl), get?_attributeIfAny,
    if_neg (own.ne rfl)]
  rfl

namespace Record

section Shown

variable {fields document : Document} {h : Header} {names? : Option (String × String)}
  (same : ∀ field, document.get? field = (written fields h names?).get? field)
include same

theorem text?_key_written : document.text? Attribute.key = some h.key := by
  rw [Document.text?, same, written, Header.get?_overlay, if_neg (by decide), if_neg (by decide), if_pos rfl]
  rfl

theorem text?_rev_written : document.text? Attribute.rev = some h.rev := by
  rw [Document.text?, same, written, Header.get?_overlay, if_pos rfl]
  rfl

theorem ofDocument?_written : Stamp.ofDocument? document = some (.ofHeader h) :=
  Stamp.ofDocument?_of_texts (text?_key_written same) (text?_rev_written same)

theorem get?_own {field : String} (own : Attribute.IsOwn field) : document.get? field = fields.get? field := by
  rw [same, written, Header.get?_overlay, if_neg (own.ne rfl), if_neg (own.ne rfl), if_neg (own.ne rfl),
    Ends.get?_overlay _ _ (own.ne rfl) (own.ne rfl)]

end Shown

end Record

namespace Sample

variable {document : Document} {h : Header}

theorem Identity.ofDocument?_written (i : Identity)
    (same : ∀ field, document.get? field = (Record.written i.attributes h none).get? field) :
    ofDocument? document = some { i with stamp := .ofHeader h } := by
  have name : document.get? "name" = some (.string i.name) := by
    rw [Record.get?_own same (by decide)]
    simp [attributes, Table.get?_ofList_append, Table.get?_ofList_cons]
  have data : document.get? "data" = if i.data.isNull then none else some i.data := by
    have own := i.stamp.get?_attributes (show Attribute.IsOwn "data" by decide)
    rw [Record.get?_own same (by decide)]
    simp [attributes, Table.get?_ofList_append, Table.get?_ofList_cons, own]
  obtain ⟨stamp, text, value⟩ := i
  simp only [ofDocument?, Record.ofDocument?_written same, Document.textOrEmpty?, name, data, Value.asString?,
    Option.bind_eq_bind, Option.bind_some]
  cases value <;> rfl

theorem Nested.optional?_orNull (sub : Option Nested) :
    Nested.optional? (some (ExtendedIdentity.orNull (sub.map Nested.value))) = some sub := by
  cases sub <;> rfl

theorem SaveTimes.ofDocument?_attributes {times : SaveTimes}
    (created : document.get? "time_created" = times.created.map .ofNat)
    (updated : document.get? "time_updated" = times.updated.map .ofNat) : ofDocument? document = some times := by
  obtain ⟨first, last⟩ := times
  simp only [ofDocument?, Document.optionalNat?, created, updated]
  cases first <;> cases last <;> rfl

theorem ExtendedIdentity.ofDocument?_written (i : ExtendedIdentity)
    (same : ∀ field, document.get? field = (Record.written i.attributes h none).get? field) :
    ofDocument? document = some { i with stamp := .ofHeader h } := by
  have own {field : String} (own : Attribute.IsOwn field) := i.stamp.get?_attributes own
  have shown {field : String} (isOwn : Attribute.IsOwn field) : document.get? field =
      (if "time_updated" = field then i.times.updated.map .ofNat else none).or
        ((if "time_created" = field then i.times.created.map .ofNat else none).or
          ((if "sub" = field then some (orNull (i.sub.map Nested.value)) else none).or
            ((if "extra" = field then some (orNull (i.extra.map .string)) else none).or
              (if "name" = field then some (.string i.name) else none)))) := by
    rw [Record.get?_own same isOwn]
    simp [attributes, SaveTimes.attributes, Table.get?_ofList_append, Table.get?_ofList_cons, own isOwn, Option.or_assoc]
  have name : document.get? "name" = some (.string i.name) := (shown (by decide)).trans (by simp)
  have extra : document.get? "extra" = some (orNull (i.extra.map .string)) := (shown (by decide)).trans (by simp)
  have sub : document.get? "sub" = some (orNull (i.sub.map Nested.value)) := (shown (by decide)).trans (by simp)
  have times : SaveTimes.ofDocument? document = some i.times :=
    SaveTimes.ofDocument?_attributes ((shown (by decide)).trans (by simp)) ((shown (by decide)).trans (by simp))
  obtain ⟨stamp, text, more, nested, t⟩ := i
  simp only [ofDocument?, Record.ofDocument?_written same, Document.textOrEmpty?, Document.optionalText?, name, extra,
    sub, times, Nested.optional?_orNull, Value.asString?, Option.bind_eq_bind, Option.bind_some]
  cases more <;> rfl

theorem Person.ofDocument?_written (p : Person)
    (same : ∀ field, document.get? field = (Record.written p.attributes h none).get? field) :
    ofDocument? document = some { p with stamp := .ofHeader h } := by
  have name : document.text? "name" = some p.name := by
    rw [Document.text?, Record.get?_own same (by decide)]
    simp [attributes, Table.get?_ofList_append, Table.get?_ofList_cons, Value.asString?]
  simp [ofDocument?, Record.ofDocument?_written same, name]

theorem TextEdge.ofDocument?_written {name field : String} (own : Attribute.IsOwn field) (e : TextEdge name field)
    {names : String × String}
    (same : ∀ field, document.get? field = (Record.written e.attributes h (some names)).get? field) :
    ofDocument? document = some ({ e with stamp := .ofHeader h, ends := .named names } : TextEdge name field) := by
  have text : document.text? field = some e.text := by
    rw [Document.text?, Record.get?_own same own]
    simp [attributes, Table.get?_ofList_append, Table.get?_ofList_cons, Value.asString?]
  have source : document.text? Attribute.source = some names.1 := by
    rw [Document.text?, same, Record.written, Header.get?_overlay, if_neg (by decide), if_neg (by decide),
      if_neg (by decide)]
    exact (Document.text?_setText_of_ne _ _ (by decide)).trans (Document.text?_setText_self ..)
  have target : document.text? Attribute.target = some names.2 := by
    rw [Document.text?, same, Record.written, Header.get?_overlay, if_neg (by decide), if_neg (by decide),
      if_neg (by decide)]
    exact Document.text?_setText_self ..
  simp [ofDocument?, Record.ofDocument?_written same, text, source, target]
  rfl

namespace Kind

/-- A record that knows its ends by the identifiers that they stand for. -/
def settle (k : Kind) (d : Directory) (r : k.Rec) : k.Rec :=
  match Record.names? r d with
  | some names => k.withEnds r (.named names)
  | none => r

instance (k : Kind) : LawfulRecord k.Rec := by
  cases k <;> infer_instance

theorem stamp_restamp (k : Kind) (r : k.Rec) (s : Stamp) : Record.stamp (Record.restamp r s) = s := by
  cases k <;> rfl

theorem ends?_restamp (k : Kind) (r : k.Rec) (s : Stamp) : Record.ends? (Record.restamp r s) = Record.ends? r := by
  cases k <;> rfl

/-- All sample types but the raw one read back what they have written. -/
theorem decode_written {k : Kind} (notRaw : k ≠ .raw) {r : k.Rec} {fields : Document}
    (encoded : Record.fields r = .ok fields) {d : Directory}
    (resolved : (Record.names? r d).isSome = (Record.ends? r).isSome)
    (same : ∀ field, document.get? field = (Record.written fields h (Record.names? r d)).get? field) :
    Record.decode (.object document) = some (k.settle d (Record.restamp r (.ofHeader h))) := by
  cases k with
  | raw => exact absurd rfl notRaw
  | identity =>
    obtain rfl := Except.ok.inj encoded
    exact Identity.ofDocument?_written r same
  | extendedIdentity =>
    obtain rfl := Except.ok.inj encoded
    exact ExtendedIdentity.ofDocument?_written r same
  | person =>
    obtain rfl := Except.ok.inj encoded
    exact Person.ofDocument?_written r same
  | link | relation | secondaryRelation =>
    obtain ⟨names, found⟩ := Option.isSome_iff_exists.mp resolved
    obtain rfl := Except.ok.inj encoded
    rw [found] at same
    have settled : Record.names? (Record.restamp r (.ofHeader h)) d = some names := found
    rw [settle, settled]
    exact TextEdge.ofDocument?_written (by decide) r same

end Kind

end Sample
end RecordStore
