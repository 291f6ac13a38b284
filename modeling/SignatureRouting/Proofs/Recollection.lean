import SignatureRouting.Proofs.Concatenation

/-!
What a history remembers of the records it is made of. It knows who has acted on which document in
which role, and which document was recorded before which. A build asks for the first alone, so it
comes out the same however the records are ordered and however often each of them occurs.
-/
namespace SignatureRouting
open Value

def Record.States (r : Record) (document actor : Value) (role : Role) : Prop :=
  (document == r.document) = true ∧ (actor == r.actor) = true ∧ role = r.role

instance (r : Record) (document actor : Value) (role : Role) :
    Decidable (r.States document actor role) := inferInstanceAs (Decidable (_ ∧ _ ∧ _))

def Record.IsNamed (r : Record) : Prop :=
  r.document.isIdentifier = true ∧ r.actor.isIdentifier = true

instance (r : Record) : Decidable r.IsNamed := inferInstanceAs (Decidable (_ ∧ _))

/-- Two lists of records say the same, in any order and any number of times. -/
def SameRecords (records others : List Record) : Prop :=
  ∀ document actor role, (∃ r ∈ records, r.States document actor role) ↔
    ∃ r ∈ others, r.States document actor role

theorem Record.States.trans {r s : Record} (states : r.States s.document s.actor s.role)
    {document actor : Value} {role : Role} (stated : s.States document actor role) :
    r.States document actor role :=
  ⟨same_trans stated.1 states.1, same_trans stated.2.1 states.2.1, stated.2.2.trans states.2.2⟩

theorem sameRecords_iff {records others : List Record} : SameRecords records others ↔
    (∀ r ∈ records, ∃ s ∈ others, s.States r.document r.actor r.role) ∧
      ∀ s ∈ others, ∃ r ∈ records, r.States s.document s.actor s.role := by
  constructor
  · intro same
    have own : ∀ r : Record, r.States r.document r.actor r.role :=
      fun r => ⟨same_refl _, same_refl _, rfl⟩
    exact ⟨fun r member => (same _ _ _).1 ⟨r, member, own r⟩,
      fun s member => (same _ _ _).2 ⟨s, member, own s⟩⟩
  · rintro ⟨right, left⟩ d a role
    constructor
    · rintro ⟨r, member, stated⟩
      obtain ⟨s, listed, states⟩ := right r member
      exact ⟨s, listed, states.trans stated⟩
    · rintro ⟨s, member, stated⟩
      obtain ⟨r, listed, states⟩ := left s member
      exact ⟨r, listed, states.trans stated⟩

instance (records others : List Record) : Decidable (SameRecords records others) :=
  decidable_of_iff _ sameRecords_iff.symm

namespace SameRecords
variable {records others : List Record} (same : SameRecords records others)
include same

theorem symm : SameRecords others records := fun d a role => (same d a role).symm

theorem isNamed (named : ∀ r ∈ records, r.IsNamed) : ∀ s ∈ others, s.IsNamed := by
  intro s member
  obtain ⟨r, listed, document, actor, _⟩ := (sameRecords_iff.1 same).2 s member
  obtain ⟨first, second⟩ := named r listed
  exact ⟨(isIdentifier_congr document).trans first, (isIdentifier_congr actor).trans second⟩

end SameRecords

namespace History

theorem record?_eq (h : History) (r : Record) :
    h.record? r = if r.IsNamed then .ok (h.record r.document r.actor r.role)
      else .error .notIdentifier := by
  unfold record? attempt
  by_cases document : r.document.isIdentifier = true
  · by_cases actor : r.actor.isIdentifier = true
    · simp [Record.IsNamed, document, actor]
    · simp [Record.IsNamed, document, actor]
  · simp [Record.IsNamed, document]

theorem foldlM_record? (h : History) (records : List Record) :
    records.foldlM record? h = if ∀ r ∈ records, r.IsNamed then .ok (h.recordEach records)
      else .error .notIdentifier := by
  induction records generalizing h with
  | nil => simp [recordEach, pure, Except.pure]
  | cons r rest ih =>
    rw [List.foldlM_cons, record?_eq]
    by_cases named : r.IsNamed
    · rw [if_pos named]
      have step : h.recordEach (r :: rest) =
        (h.record r.document r.actor r.role).recordEach rest := rfl
      simp only [bind, Except.bind, ih, step, List.forall_mem_cons, named, true_and]
    · rw [if_neg named, if_neg fun all => named (all r List.mem_cons_self)]
      rfl

theorem ofRecords?_eq (records : List Record) :
    ofRecords? records = if ∀ r ∈ records, r.IsNamed then .ok (ofRecords records)
      else .error .notIdentifier := foldlM_record? empty records

theorem ofRecords?_eq_ok_iff {records : List Record} {h : History} :
    ofRecords? records = .ok h ↔ (∀ r ∈ records, r.IsNamed) ∧ h = ofRecords records := by
  rw [ofRecords?_eq]
  by_cases named : ∀ r ∈ records, r.IsNamed
  · rw [if_pos named, Except.ok.injEq]
    exact ⟨fun same => ⟨named, same.symm⟩, fun made => made.2.symm⟩
  · rw [if_neg named]
    exact ⟨nofun, fun made => absurd made.1 named⟩

theorem ofRecords?_eq_error_iff {records : List Record} {m : Misuse} :
    ofRecords? records = .error m ↔ (¬ ∀ r ∈ records, r.IsNamed) ∧ m = .notIdentifier := by
  rw [ofRecords?_eq]
  by_cases named : ∀ r ∈ records, r.IsNamed
  · rw [if_pos named]
    exact ⟨nofun, fun refused => absurd named refused.1⟩
  · rw [if_neg named, Except.error.injEq]
    exact ⟨fun same => ⟨named, same.symm⟩, fun refused => refused.2.symm⟩

theorem documents_put (document : Value) (tally : Tally) (entries : List (Value × Tally)) :
    (put document tally entries).map (·.1) = document.insertInto (entries.map (·.1)) := by
  induction entries with
  | nil => rfl
  | cons entry rest ih =>
    obtain ⟨d, t⟩ := entry
    rw [put, List.map_cons, Value.insertInto, List.contains_cons]
    by_cases here : (document == d) = true
    · rw [if_pos here, here, Bool.true_or, if_pos rfl]
      rfl
    · rw [Bool.not_eq_true] at here
      rw [if_neg (by simp [here]), here, Bool.false_or, List.map_cons, ih, Value.insertInto]
      split
      · rfl
      · rfl

theorem documents_record (h : History) (document actor : Value) (role : Role) :
    (h.record document actor role).documents = document.insertInto h.documents :=
  documents_put document _ h.entries

theorem documents_recordEach {h : History} (distinct : Distinct h.documents)
    (records : List Record) :
    (h.recordEach records).documents = unique (h.documents ++ records.map (·.document)) := by
  induction records generalizing h with
  | nil => simpa [recordEach] using (unique_of_distinct distinct).symm
  | cons r rest ih =>
    have step : h.recordEach (r :: rest) = (h.record r.document r.actor r.role).recordEach rest :=
      rfl
    have listed : (h.record r.document r.actor r.role).documents =
        unique (h.documents ++ [r.document]) := by
      have single : Distinct [r.document] := List.nodup_singleton _
      rw [documents_record, unique_append_of_distinct distinct single, Value.insertInto]
      cases present : h.documents.contains r.document with
      | true => simp [present]
      | false => simp [present]
    have again : Distinct (h.record r.document r.actor r.role).documents := by
      rw [listed]
      exact distinct_unique _
    rw [step, ih again, listed, unique_unique_append, List.map_cons, List.append_assoc,
      List.singleton_append]

theorem distinct_insertInto {l : List Value} (distinct : Distinct l) (v : Value) :
    Distinct (v.insertInto l) := by
  unfold Value.insertInto
  split
  · exact distinct
  · rename_i absent
    exact distinct_append_one distinct (Bool.not_eq_true _ ▸ absent)

def ListsOnce (h : History) : Prop := ∀ document role, Distinct ((h.tally document).actors role)

theorem ListsOnce.record {h : History} (once : h.ListsOnce) (document actor : Value)
    (role : Role) : (h.record document actor role).ListsOnce := by
  intro d r
  rw [tally_record]
  split
  · by_cases same : r = role
    · subst same
      rw [Tally.actors_add]
      exact distinct_insertInto (once document r) actor
    · rw [Tally.actors_add_of_ne _ _ same]
      exact once document r
  · exact once d r

theorem ListsOnce.recordEach {h : History} (once : h.ListsOnce) (records : List Record) :
    (h.recordEach records).ListsOnce := by
  induction records generalizing h with
  | nil => exact once
  | cons r rest ih => exact ih (once.record r.document r.actor r.role)

structure Remembers (h : History) (records : List Record) : Prop where
  actors : ∀ document actor role,
    ((h.tally document).actors role).contains actor = true ↔
      ∃ r ∈ records, r.States document actor role
  actors_once : h.ListsOnce
  contains : ∀ document, h.contains document = true ↔
    ∃ r ∈ records, (document == r.document) = true
  documents : h.documents = unique (records.map (·.document))
  documents_once : Distinct h.documents

theorem remembers_ofRecords (records : List Record) : (ofRecords records).Remembers records := by
  have listed : (ofRecords records).documents = unique (records.map (·.document)) :=
    documents_recordEach (h := empty) distinct_nil records
  have once : empty.ListsOnce := by
    intro document role
    cases role <;> exact distinct_nil
  refine ⟨fun d a role => records_ofRecords records d a role, once.recordEach records, ?_, listed,
    listed ▸ distinct_unique _⟩
  intro document
  rw [History.contains, listed, contains_unique, List.contains_iff_exists_mem_beq]
  simp

end History

theorem BuildError.later_zero (e : BuildError) : e.later 0 = e := by
  cases e <;> simp [later]

theorem Node.later_zero (n : Node) : n.later 0 = n := by
  obtain ⟨step, role, tag, actors, opened, quota, doneActors, doneDocuments⟩ := n
  cases step <;> simp [later]

theorem Draft.GoesOn.parts {a b : Draft} (on : Draft.GoesOn [] [] 0 a b) :
    b.actors = a.actors ∧ b.nodes = a.nodes := by
  have unmoved : Node.later 0 = id := funext Node.later_zero
  constructor
  · rw [on.actors, List.nil_append, unique_of_distinct on.distinct]
  · rw [on.nodes, List.nil_append, unmoved, List.map_id]

theorem Workflow.build_alike {h k : History} (alike : h.Alike k) (setting : Setting)
    (steps : Option (List StepItem)) (documents : Option (List Value)) :
    build setting h steps documents = build setting k steps documents := by
  have on : Draft.GoesOn [] [] 0 (.start h) (.start k) := ⟨distinct_nil, rfl, alike, rfl⟩
  cases given : documentIds documents with
  | error e =>
    rw [build_of_refused_documents given, build_of_refused_documents given]
  | ok ids =>
    cases steps with
    | none => simp only [build, given, bind, Except.bind]
    | some items =>
      by_cases nothing : items = []
      · simp only [build, given, nothing, bind, Except.bind]
      · have moved := on.addSteps setting ids 0 items
        rw [Nat.zero_add] at moved
        rw [build_of_documents given nothing, build_of_documents given nothing]
        cases added : Draft.addSteps setting ids 0 items (.start h) with
        | error e =>
          rw [moved.of_error added, BuildError.later_zero]
        | ok a =>
          obtain ⟨b, same, grown⟩ := moved.of_ok added
          rw [same]
          simp only [Except.map, grown.parts.1, grown.parts.2]

theorem SameRecords.alike {records others : List Record} (same : SameRecords records others) :
    (History.ofRecords records).Alike (History.ofRecords others) := by
  intro d a role
  rw [History.records_ofRecords, History.records_ofRecords]
  exact same d a role

/-- A history of records knows exactly what they say. Lists that say the same are both kept or both
refused, and whatever is built after one of them comes out as it does after the other. -/
theorem history_is_set_of_records :
    (∀ records, ((∃ h, History.ofRecords? records = .ok h) ↔ ∀ r ∈ records, r.IsNamed) ∧
      ∀ h, History.ofRecords? records = .ok h → h.Remembers records) ∧
    ∀ records others, SameRecords records others →
      (∀ m, History.ofRecords? records = .error m ↔ History.ofRecords? others = .error m) ∧
      ∀ h k, History.ofRecords? records = .ok h → History.ofRecords? others = .ok k →
        ∀ (setting : Setting) (steps : Option (List StepItem)) (documents : Option (List Value)),
          Workflow.build setting h steps documents = Workflow.build setting k steps documents := by
  simp only [History.ofRecords?_eq_ok_iff, History.ofRecords?_eq_error_iff]
  constructor
  · intro records
    refine ⟨⟨fun ⟨_, named, _⟩ => named, fun named => ⟨_, named, rfl⟩⟩, ?_⟩
    rintro h ⟨_, rfl⟩
    exact History.remembers_ofRecords records
  · intro records others same
    have named : (∀ r ∈ records, r.IsNamed) ↔ ∀ s ∈ others, s.IsNamed :=
      ⟨same.isNamed, same.symm.isNamed⟩
    refine ⟨fun m => by rw [named], ?_⟩
    rintro h k ⟨_, rfl⟩ ⟨_, rfl⟩ setting steps documents
    exact Workflow.build_alike same.alike setting steps documents

def signedInTurn : List Record :=
  [⟨.int 10, .int 2, .signature⟩, ⟨.int 11, .int 2, .signature⟩, ⟨.int 10, .int 3, .signature⟩]

def signedBackwards : List Record :=
  [⟨.int 10, .int 3, .signature⟩, ⟨.int 11, .int 2, .signature⟩, ⟨.int 10, .int 2, .signature⟩,
   ⟨.int 11, .int 2, .signature⟩]

/-- A second signature is refused on the document that is first in the workflow, whichever was
recorded first. -/
theorem history_is_set_of_records_backwards :
    SameRecords signedInTurn signedBackwards ∧
      ∃ h k, History.ofRecords? signedInTurn = .ok h ∧ h.Remembers signedInTurn ∧
        History.ofRecords? signedBackwards = .ok k ∧
        Workflow.build agency k (some signAgain) (some [.int 11, .int 10]) =
          .error (.repeatedAction 0 (.int 2) (.int 11) .signature) := by
  have same : SameRecords signedInTurn signedBackwards := by decide
  obtain ⟨making, building⟩ := history_is_set_of_records
  obtain ⟨h, first⟩ := (making signedInTurn).1.2 (by decide)
  obtain ⟨k, second⟩ := (making signedBackwards).1.2 (by decide)
  obtain rfl := (History.ofRecords?_eq_ok_iff.1 first).2
  have refused : Workflow.build agency (.ofRecords signedInTurn) (some signAgain)
      (some [.int 11, .int 10]) = .error (.repeatedAction 0 (.int 2) (.int 11) .signature) := rfl
  refine ⟨same, _, k, first, (making signedInTurn).2 _ first, second, ?_⟩
  rw [← (building _ _ same).2 _ k first second]
  exact refused

end SignatureRouting
