import Mathlib.Data.List.Nodup
import RecordStore.Proofs.Store.Change
import RecordStore.Value.Parser

/-!
# Revisions and the history of a store

Every stored document was stored by a write of the history, and no two writes were answered with the same revision
(`Traced`). So a write that presents a revision finds exactly the document that it was read from, and once it has
succeeded no other write that presents this revision does.
-/

namespace RecordStore
namespace Store

/-! ### The text of a revision -/

/-- The number that hexadecimal digits spell. -/
def hexNumber (digits : List Char) : Nat :=
  digits.foldl (fun n c => n * 16 + (Value.hexDigit? c).getD 0) 0

theorem hexDigit?_digitChar : ∀ d < 16, Value.hexDigit? d.digitChar = some d := by
  decide

theorem hexNumber_concat (digits : List Char) (c : Char) :
    hexNumber (digits ++ [c]) = hexNumber digits * 16 + (Value.hexDigit? c).getD 0 := by
  simp [hexNumber]

theorem hexNumber_toDigits (n : Nat) : hexNumber (Nat.toDigits 16 n) = n := by
  induction n using Nat.strongRecOn with
  | _ n ih =>
    rw [Nat.toDigits_eq_if (by decide)]
    split
    · rename_i small
      simp [hexNumber, hexDigit?_digitChar n small]
    · have last : n % 16 < 16 := Nat.mod_lt n (by decide)
      rw [hexNumber_concat, hexDigit?_digitChar _ last, ih (n / 16) (by omega), Option.getD_some]
      omega

theorem hexNumber_zeros (k : Nat) (digits : List Char) :
    hexNumber (List.replicate k '0' ++ digits) = hexNumber digits := by
  induction k with
  | zero => rfl
  | succ k ih =>
    rw [List.replicate_succ, List.cons_append]
    exact ih

theorem revision_injective {m n : Nat} (same : revision m = revision n) : m = n := by
  have number : ∀ k, hexNumber ((revision k).toList.drop 2) = k := by
    intro k
    have digits : (revision k).toList.drop 2 =
        List.replicate (8 - (Nat.toDigits 16 k).length) '0' ++ Nat.toDigits 16 k := by
      simp [revision, revisionDigits]
    rw [digits, hexNumber_zeros, hexNumber_toDigits]
  rw [← number m, ← number n, same]

/-! ### What the history knows of the stored documents -/

/-- A write stored an entry of a collection. -/
structure Stored (w : Write) (name : String) (entry : String × Document) : Prop where
  collection : w.collection = name
  key : w.header.key = entry.1
  document : w.document = some entry.2
  keyAttribute : entry.2.text? Attribute.key = some entry.1
  idAttribute : entry.2.text? Attribute.id = some (idOf name entry.1)
  revAttribute : entry.2.text? Attribute.rev = some w.header.rev

/-- Every document of a collection was stored by a write of the history under its key, which no other document has. -/
structure TracedIn (log : List Write) (name : String) (c : Collection) : Prop where
  keyed : c.keys.Nodup
  stored : ∀ entry ∈ c.documents, ∃ w ∈ log, Stored w name entry

/-- The writes of the history have revisions of their own, up to the last one, and all documents are theirs. -/
structure Traced (log : List Write) (s : Store) : Prop where
  numbered : ∀ w ∈ log, ∃ n ≤ s.revCounter, w.header.rev = revision n
  distinct : (log.map (·.header.rev)).Nodup
  traced : ∀ name c, s.collections.get? name = some c → TracedIn log name c

theorem stored_stamp (name key : String) (rev : Nat) (document : Document) :
    Stored ⟨name, ⟨idOf name key, key, revision rev⟩, some (stamp name key rev document)⟩ name
      (key, stamp name key rev document) :=
  ⟨rfl, rfl, rfl, text?_key_stamp .., text?_id_stamp .., text?_rev_stamp ..⟩

theorem TracedIn.sublist {log : List Write} {name : String} {c rest : Collection} (traced : TracedIn log name c)
    (fewer : rest.documents.Sublist c.documents) : TracedIn log name rest :=
  ⟨traced.keyed.sublist (fewer.map Prod.fst), fun entry left => traced.stored entry (fewer.subset left)⟩

theorem TracedIn.later {log : List Write} {name : String} {c : Collection} (traced : TracedIn log name c)
    (more : List Write) : TracedIn (log ++ more) name c := by
  refine ⟨traced.keyed, fun entry here => ?_⟩
  obtain ⟨w, logged, stored⟩ := traced.stored entry here
  exact ⟨w, List.mem_append_left _ logged, stored⟩

theorem TracedIn.edit {log ws : List Write} {name : String} {revs revs' : Nat} {old new : Option Collection}
    (edit : Edit name revs old ws new revs') (traced : ∀ c, old = some c → TracedIn log name c) :
    ∀ c, new = some c → TracedIn (log ++ ws) name c := by
  rintro c rfl
  cases edit with
  | keep => exact (traced c rfl).later []
  | create options => exact ⟨List.nodup_nil, fun entry here => absurd here List.not_mem_nil⟩
  | thin options indexes fewer => exact ((traced _ rfl).sublist fewer).later []
  | @index c i distinct =>
    have same : TracedIn log name { c with indexes := c.indexes ++ [i] } :=
      (traced c rfl).sublist (List.Sublist.refl _)
    exact same.later []
  | @insert c key document ends keyed free clear =>
    refine ⟨?_, fun entry here => ?_⟩
    · rw [Collection.keys_push]
      refine List.nodup_append.mpr ⟨(traced c rfl).keyed, List.pairwise_singleton _ key, ?_⟩
      intro other used new isNew same
      obtain ⟨entry, stored, rfl⟩ := List.mem_map.mp used
      exact Collection.hasKey_eq_false.mp free entry stored (same.trans (List.mem_singleton.mp isNew))
    · rcases List.mem_append.mp here with before | new
      · exact ((traced c rfl).later _).stored entry before
      · obtain rfl := List.mem_singleton.mp new
        exact ⟨_, List.mem_append_right _ List.mem_cons_self, stored_stamp name key (revs + 1) document⟩
  | @replace c key stored document ends keyed found clear =>
    refine ⟨?_, fun entry here => ?_⟩
    · rw [Collection.keys_put]
      exact (traced c rfl).keyed
    · rcases Collection.mem_put (traced c rfl).keyed here with rfl | ⟨before, -⟩
      · exact ⟨_, List.mem_append_right _ List.mem_cons_self, stored_stamp name key (revs + 1) document⟩
      · exact ((traced c rfl).later _).stored entry before

theorem edit_writes {name : String} {revs revs' : Nat} {old new : Option Collection} {ws : List Write}
    (edit : Edit name revs old ws new revs') :
    ws = [] ∧ revs' = revs ∨ ∃ w, ws = [w] ∧ w.header.rev = revision (revs + 1) ∧ revs' = revs + 1 := by
  cases edit with
  | keep | create | drop | thin | index => exact .inl ⟨rfl, rfl⟩
  | insert | replace => exact .inr ⟨_, rfl, rfl, rfl⟩

theorem Traced.change {log ws : List Write} {s t : Store} {name : String} (traced : Traced log s)
    (change : Change name s ws t) : Traced (log ++ ws) t := by
  have collections : ∀ other c, t.collections.get? other = some c → TracedIn (log ++ ws) other c := by
    intro other c present
    by_cases same : other = name
    · subst same
      exact TracedIn.edit change.here (traced.traced other) c present
    · rw [change.elsewhere other same] at present
      exact (traced.traced other c present).later ws
  rcases edit_writes change.here with ⟨rfl, revs⟩ | ⟨w, rfl, rev, revs⟩
  · refine ⟨fun w logged => ?_, by simpa using traced.distinct, collections⟩
    rw [List.append_nil] at logged
    obtain ⟨n, known, rev⟩ := traced.numbered w logged
    exact ⟨n, by omega, rev⟩
  · refine ⟨fun v logged => ?_, ?_, collections⟩
    · rcases List.mem_append.mp logged with before | new
      · obtain ⟨n, known, rev⟩ := traced.numbered v before
        exact ⟨n, by omega, rev⟩
      · obtain rfl := List.mem_singleton.mp new
        exact ⟨s.revCounter + 1, by omega, rev⟩
    · rw [List.map_append]
      refine List.nodup_append.mpr ⟨traced.distinct, List.pairwise_singleton _ _, ?_⟩
      intro old before new isNew same
      obtain ⟨v, logged, rfl⟩ := List.mem_map.mp before
      obtain rfl : new = w.header.rev := List.mem_singleton.mp isNew
      obtain ⟨n, known, number⟩ := traced.numbered v logged
      have sameNumber : n = s.revCounter + 1 := revision_injective (number.symm.trans (same.trans rev))
      omega

theorem Traced.changes {log ws : List Write} {s t : Store} (traced : Traced log s) (changes : Changes s ws t) :
    Traced (log ++ ws) t := by
  induction changes with
  | refl => simpa using traced
  | tail before last ih =>
    rw [← List.append_assoc]
    exact ih.change last

theorem traced_empty (batchSize : Nat) : Traced [] (empty batchSize) :=
  ⟨fun _ logged => absurd logged List.not_mem_nil, List.nodup_nil,
    fun name c present => by simp [empty] at present⟩

/-- The history of every run accounts for all that the run leaves. -/
theorem traced_afterAll (batchSize : Nat) (requests : List Request) :
    Traced ((empty batchSize).history requests) ((empty batchSize).afterAll requests) := by
  simpa using (traced_empty batchSize).changes (afterAll_changes _ requests)

theorem Traced.write_eq {log : List Write} {s : Store} (traced : Traced log s) {v w : Write} (hv : v ∈ log)
    (hw : w ∈ log) (same : v.header.rev = w.header.rev) : v = w :=
  List.inj_on_of_nodup_map traced.distinct hv hw same

end Store

/-! ### Writes that present a revision -/

/-- The revision that a client expects a document to have. -/
structure Expectation where
  collection : String
  key : String
  rev : String

namespace Request

/-- What a replacement or a deletion expects, if it presents a revision that is not empty. -/
def expects? : Request → Option Expectation
  | replace collection document | replaceVertex _ collection document | replaceEdge _ collection document => do
    let key ← document.text? Attribute.key
    let rev ← Store.presentedRev? document
    return ⟨collection, key, rev⟩
  | delete collection key rev _ | deleteVertex _ collection key rev _ | deleteEdge _ collection key rev _ => do
    let rev ← rev.filter fun rev => rev ≠ ""
    return ⟨collection, key, rev⟩
  | _ => none

/-- Whether an answer says that a replacement or a deletion took place. -/
def tookPlace : (r : Request) → r.Answer → Bool
  | replace _ _, answer | replaceVertex _ _ _, answer | replaceEdge _ _ _, answer => answer.toOption.isSome
  | delete _ _ _ _, answer | deleteVertex _ _ _ _ _, answer | deleteEdge _ _ _ _ _, answer =>
    answer.toOption == some true
  | _, _ => false

end Request

namespace Store

/-- No document under the key has the expected revision, and no later write will be given it. -/
structure Superseded (e : Expectation) (s : Store) : Prop where
  number : ∃ n ≤ s.revCounter, e.rev = revision n
  gone : ∀ c, s.collections.get? e.collection = some c → ∀ entry ∈ c.documents, entry.1 = e.key →
    entry.2.text? Attribute.rev ≠ some e.rev

/-- A request met what it expected: the document was stored with the revision, and is not any more. -/
structure Met (s : Store) (e : Expectation) (t : Store) : Prop where
  current : ∃ stored, s.document? e.collection e.key = some stored ∧ stored.text? Attribute.rev = some e.rev
  superseded : Superseded e t

theorem document?_of_find? {s : Store} {name key : String} {c : Collection} {stored : Document}
    (present : s.collections.get? name = some c) (found : c.find? key = some stored) :
    s.document? name key = some stored := by
  rw [document?, present, Option.bind_some, found]

theorem text?_rev_of_current {rev : String} {stored : Document} (current : isStale (some rev) stored = false) :
    stored.text? Attribute.rev = some rev := by
  simpa [isStale] using current

theorem Traced.write_of_document? {log : List Write} {s : Store} (traced : Traced log s) {name key : String}
    {stored : Document} (found : s.document? name key = some stored) : ∃ w ∈ log, Stored w name (key, stored) := by
  obtain ⟨c, present, here⟩ := Option.bind_eq_some_iff.mp found
  exact (traced.traced name c present).stored _ (Collection.mem_of_find? here)

theorem Traced.number_of_document? {log : List Write} {s : Store} (traced : Traced log s) {name key rev : String}
    {stored : Document} (found : s.document? name key = some stored) (shown : stored.text? Attribute.rev = some rev) :
    ∃ n ≤ s.revCounter, rev = revision n := by
  obtain ⟨w, logged, written⟩ := traced.write_of_document? found
  obtain ⟨n, known, number⟩ := traced.numbered w logged
  exact ⟨n, known, (Option.some.inj (shown.symm.trans written.revAttribute)).trans number⟩

theorem Superseded.edit {e : Expectation} {name : String} {revs revs' n : Nat} {old new : Option Collection}
    {ws : List Write} (edit : Edit name revs old ws new revs') (known : n ≤ revs) (number : e.rev = revision n)
    (gone : ∀ c, old = some c → ∀ entry ∈ c.documents, entry.1 = e.key →
      entry.2.text? Attribute.rev ≠ some e.rev) :
    ∀ c, new = some c → ∀ entry ∈ c.documents, entry.1 = e.key → entry.2.text? Attribute.rev ≠ some e.rev := by
  -- revisions are numbered, and the number that was presented was given out before
  have fresh : ∀ key document, (stamp name key (revs + 1) document).text? Attribute.rev ≠ some e.rev := by
    intro key document same
    rw [text?_rev_stamp, number] at same
    have := revision_injective (Option.some.inj same)
    omega
  rintro c rfl entry here keyed
  cases edit with
  | keep => exact gone c rfl entry here keyed
  | create => exact absurd here List.not_mem_nil
  | thin options indexes fewer => exact gone _ rfl entry (fewer.subset here) keyed
  | index => exact gone _ rfl entry here keyed
  | @insert c key document =>
    rcases List.mem_append.mp here with before | new
    · exact gone c rfl entry before keyed
    · obtain rfl := List.mem_singleton.mp new
      exact fresh key document
  | @replace c key stored document =>
    rcases Collection.mem_of_mem_put here with rfl | before
    · exact fresh key document
    · exact gone c rfl entry before keyed

theorem Superseded.changes {e : Expectation} {s t : Store} {ws : List Write} (superseded : Superseded e s)
    (changes : Changes s ws t) : Superseded e t := by
  induction changes with
  | refl => exact superseded
  | @tail t u ws vs name before last ih =>
    obtain ⟨⟨n, known, number⟩, gone⟩ := ih
    refine ⟨⟨n, ?_, number⟩, fun c present => ?_⟩
    · rcases edit_writes last.here with ⟨-, revs⟩ | ⟨-, -, -, revs⟩ <;> omega
    · by_cases same : e.collection = name
      · subst same
        exact Superseded.edit last.here known number gone c present
      · rw [last.elsewhere _ same] at present
        exact gone c present

theorem met_replaced {log : List Write} {s : Store} (traced : Traced log s) {name key rev : String} {c : Collection}
    {stored document : Document} (checked : s.ReplaceChecked name c key stored document)
    (presented : presentedRev? document = some rev) : Met s ⟨name, key, rev⟩ (s.replaced name c key document) := by
  have found := document?_of_find? checked.present checked.found
  have shown : stored.text? Attribute.rev = some rev := text?_rev_of_current (presented ▸ checked.current)
  obtain ⟨n, known, number⟩ := traced.number_of_document? found shown
  refine ⟨⟨stored, found, shown⟩, ⟨n, Nat.le_succ_of_le known, number⟩, fun d present entry here keyed same => ?_⟩
  obtain rfl : c.put key _ = d := Option.some.inj ((Table.get?_set_self ..).symm.trans present)
  rcases Collection.mem_put (traced.traced name c checked.present).keyed here with rfl | ⟨-, different⟩
  · rw [text?_rev_stamp, number] at same
    have := revision_injective (Option.some.inj same)
    omega
  · exact different keyed

theorem met_removed {log : List Write} {s : Store} (traced : Traced log s) {name key rev : String} {c : Collection}
    {presented : Option String} {stored : Document} (checked : s.DeleteChecked name c key presented stored)
    (counts : (presented.filter fun rev => rev ≠ "") = some rev) :
    Met s ⟨name, key, rev⟩ (s.setCollection name (c.remove key)) := by
  have found := document?_of_find? checked.present checked.found
  have shown : stored.text? Attribute.rev = some rev := text?_rev_of_current (counts ▸ checked.current)
  obtain ⟨n, known, number⟩ := traced.number_of_document? found shown
  refine ⟨⟨stored, found, shown⟩, ⟨n, known, number⟩, fun d present entry here keyed => ?_⟩
  obtain rfl : c.remove key = d := Option.some.inj ((Table.get?_set_self ..).symm.trans present)
  have none := Collection.hasKey_remove (traced.traced name c checked.present).keyed key
  exact absurd keyed (Collection.hasKey_eq_false.mp none entry here)

/-! ### Requests that expect a revision -/

theorem replace_met {log : List Write} {s : Store} (traced : Traced log s) {name : String} {document : Document}
    {e : Expectation} (expects : (Request.replace name document).expects? = some e)
    (took : (s.replace name document).1.toOption.isSome = true) : Met s e (s.replace name document).2 := by
  obtain ⟨key, keyed, expects⟩ := Option.bind_eq_some_iff.mp expects
  obtain ⟨rev, presented, expects⟩ := Option.bind_eq_some_iff.mp expects
  obtain rfl := Option.some.inj expects
  rcases s.replace_cases name document with ⟨r, refused⟩ | ⟨c, own, stored, checked, done⟩
  · rw [refused] at took
    cases took
  · obtain rfl : own = key := Option.some.inj (checked.keyed.symm.trans keyed)
    rw [done]
    exact met_replaced traced checked presented

theorem delete_met {log : List Write} {s : Store} (traced : Traced log s) {name key : String} {rev : Option String}
    {ignoreMissing : Bool} {e : Expectation}
    (expects : (Request.delete name key rev ignoreMissing).expects? = some e)
    (took : (s.delete name key rev ignoreMissing).1.toOption = some true) :
    Met s e (s.delete name key rev ignoreMissing).2 := by
  obtain ⟨presented, counts, expects⟩ := Option.bind_eq_some_iff.mp expects
  obtain rfl := Option.some.inj expects
  rcases s.delete_cases name key rev ignoreMissing with ⟨r, refused⟩ | nothing | ⟨c, stored, checked, done⟩
  · rw [refused] at took
    cases took
  · rw [nothing] at took
    cases took
  · rw [done]
    exact met_removed traced checked counts

theorem after_met {α : Type} {s : Store} {e : Expectation} {check : Except Refusal Unit} {next : Store → Outcome α}
    (success : Option α → Prop) (unsuccessful : ¬success none)
    (met : success (next s).1.toOption → Met s e (next s).2) (took : success (s.after check next).1.toOption) :
    Met s e (s.after check next).2 := by
  rcases s.after_cases check next with ⟨r, -, refused⟩ | ⟨-, passed⟩
  · rw [refused] at took
    exact absurd took unsuccessful
  · rw [passed] at took ⊢
    exact met took

theorem deleteVertex_met {log : List Write} {s : Store} (traced : Traced log s) {graph name key : String}
    {rev : Option String} {ignoreMissing : Bool} {e : Expectation}
    (expects : (Request.delete name key rev ignoreMissing).expects? = some e)
    (took : (s.deleteVertex graph name key rev ignoreMissing).1.toOption = some true) :
    Met s e (s.deleteVertex graph name key rev ignoreMissing).2 := by
  obtain ⟨presented, counts, expects⟩ := Option.bind_eq_some_iff.mp expects
  obtain rfl := Option.some.inj expects
  rcases s.deleteVertex_cases graph name key rev ignoreMissing with
    ⟨r, refused⟩ | nothing | ⟨c, stored, -, checked, done⟩
  · rw [refused] at took
    cases took
  · rw [nothing] at took
    cases took
  · have met := met_removed traced checked counts
    rw [done]
    exact ⟨met.current, met.superseded.changes (removeIncidentEdges_changes _ name (idOf name key))⟩

theorem toOption_reply {α : Type} (outcome : Outcome α) : (reply outcome).1.toOption = outcome.1.toOption := by
  obtain ⟨result, t⟩ := outcome
  cases result <;> rfl

/-- A request that presents a revision and takes place has met what it expected. -/
theorem answer_met {log : List Write} {s : Store} (traced : Traced log s) {r : Request} {e : Expectation}
    (expects : r.expects? = some e) (took : r.tookPlace (s.answer r).1 = true) : Met s e (s.answer r).2 := by
  cases r with
  | replace name document =>
    refine replace_met traced expects ?_
    rw [← toOption_reply]
    exact took
  | replaceVertex graph name document | replaceEdge graph name document =>
    refine after_met (fun result => result.isSome = true) (by simp) (replace_met traced expects) ?_
    rw [← toOption_reply]
    exact took
  | delete name key rev ignoreMissing =>
    refine delete_met traced expects ?_
    rw [← toOption_reply]
    exact eq_of_beq took
  | deleteVertex graph name key rev ignoreMissing =>
    refine deleteVertex_met traced expects ?_
    rw [← toOption_reply]
    exact eq_of_beq took
  | deleteEdge graph name key rev ignoreMissing =>
    refine after_met (fun result => result = some true) (by simp) (delete_met traced expects) ?_
    rw [← toOption_reply]
    exact eq_of_beq took
  | _ => cases expects

/-- No lost update, for every run from an empty store: no two writes are answered with the same revision; a
replacement or deletion that presents a revision and takes place found exactly the document that the one write with
this revision stored, under the same key of the same collection; and from then on, whatever else is asked, no other
request that presents this revision of this document takes place. -/
theorem no_update_lost (batchSize : Nat) (requests : List Request) :
    (((empty batchSize).history requests).map (·.header.rev)).Nodup ∧
      ∀ (r : Request) (e : Expectation), r.expects? = some e →
        r.tookPlace (((empty batchSize).afterAll requests).answer r).1 = true →
        (∃ w ∈ (empty batchSize).history requests,
          (∀ v ∈ (empty batchSize).history requests, v.header.rev = e.rev ↔ v = w) ∧
          w.collection = e.collection ∧ w.header.key = e.key ∧ w.document.isSome = true ∧
          ((empty batchSize).afterAll requests).document? e.collection e.key = w.document) ∧
        ∀ (between : List Request) (r' : Request), r'.expects? = some e →
          r'.tookPlace (((((empty batchSize).afterAll requests).answer r).2.afterAll between).answer r').1 = false := by
  have traced := traced_afterAll batchSize requests
  refine ⟨traced.distinct, fun r e expects took => ⟨?_, fun between r' expects' => ?_⟩⟩
  · obtain ⟨stored, found, shown⟩ := (answer_met traced expects took).current
    obtain ⟨w, logged, written⟩ := traced.write_of_document? found
    have rev : w.header.rev = e.rev := Option.some.inj (written.revAttribute.symm.trans shown)
    refine ⟨w, logged, fun v hv => ⟨fun same => traced.write_eq hv logged (same.trans rev.symm), ?_⟩,
      written.collection, written.key, by rw [written.document]; rfl, found.trans written.document.symm⟩
    rintro rfl
    exact rev
  · have before := (answer_met traced expects took).superseded.changes (afterAll_changes _ between)
    have later := (traced.changes (answer_changes _ r)).changes (afterAll_changes _ between)
    cases again : r'.tookPlace _ with
    | false => rfl
    | true =>
      obtain ⟨stored, found, shown⟩ := (answer_met later expects' again).current
      obtain ⟨c, present, here⟩ := Option.bind_eq_some_iff.mp found
      exact absurd shown (before.gone c present _ (Collection.mem_of_find? here) rfl)

/-- Of two replacements that present the same revision the second is refused. -/
theorem second_replacement_refused :
    let run : List Request := [.createCollection "c" {}, .insert "c" [("_key", .string "k")]]
    let update : Request := .replace "c" [("_key", .string "k"), ("_rev", .string "_r00000001")]
    update.expects? = some ⟨"c", "k", "_r00000001"⟩ ∧
      update.tookPlace (((empty 1).afterAll run).answer update).1 = true ∧
      update.tookPlace (((((empty 1).afterAll run).answer update).2.afterAll []).answer update).1 = false :=
  ⟨rfl, rfl, ((no_update_lost 1 _).2 _ _ rfl rfl).2 [] _ rfl⟩

end Store
end RecordStore
