import SignatureRouting.Proofs.Outcome
import SignatureRouting.Proofs.Sameness
import SignatureRouting.Workflow.Plan

/-!
What a history records. Recording adds one triple of document, actor and role and keeps the others.
Carrying out a step adds exactly the triples of its documents and actors in its role, and succeeds
only if none of them was recorded before.
-/
namespace SignatureRouting
open Value

theorem contains_insertInto (l : List Value) (v w : Value) :
    (v.insertInto l).contains w = (l.contains w || w == v) := by
  unfold Value.insertInto
  split
  · rename_i present
    cases same : w == v with
    | false => rw [Bool.or_false]
    | true => rw [contains_congr l same, present, Bool.true_or]
  · rw [contains_append, contains_singleton]

namespace History

def Records (h : History) (document actor : Value) (role : Role) : Prop :=
  ((h.tally document).actors role).contains actor = true

theorem lookup_congr (entries : List (Value × Tally)) {d e : Value} (same : (d == e) = true) :
    entries.lookup d = entries.lookup e := by
  induction entries with
  | nil => rfl
  | cons entry rest ih =>
    obtain ⟨f, t⟩ := entry
    have alike : (d == f) = (e == f) := by
      rw [Bool.eq_iff_iff, beq_iff_key_eq, beq_iff_key_eq, (beq_iff_key_eq d e).1 same]
    rw [List.lookup_cons, List.lookup_cons, alike, ih]

theorem lookup_put (document : Value) (tally : Tally) (entries : List (Value × Tally)) (d : Value) :
    (put document tally entries).lookup d =
      if d == document then some tally else entries.lookup d := by
  induction entries with
  | nil =>
    rw [put, List.lookup_cons]
    cases d == document <;> rfl
  | cons entry rest ih =>
    obtain ⟨e, t⟩ := entry
    rw [put]
    by_cases here : (document == e) = true
    · have alike : (d == e) = (d == document) := by
        rw [Bool.eq_iff_iff, beq_iff_key_eq, beq_iff_key_eq, (beq_iff_key_eq document e).1 here]
      rw [if_pos here, List.lookup_cons, List.lookup_cons, alike]
      cases d == document <;> rfl
    · rw [if_neg here, List.lookup_cons, List.lookup_cons, ih]
      cases same : d == e with
      | false => rfl
      | true =>
        have other : (d == document) = false := by
          rw [← Bool.not_eq_true]
          exact fun equal => here (same_trans (same_symm equal) same)
        rw [other]
        rfl

theorem tally_congr (h : History) {d e : Value} (same : (d == e) = true) :
    h.tally d = h.tally e := by
  rw [tally, tally, lookup_congr _ same]

theorem tally_record (h : History) (document actor : Value) (role : Role) (d : Value) :
    (h.record document actor role).tally d =
      if d == document then (h.tally document).add actor role else h.tally d := by
  rw [tally, record, lookup_put]
  cases d == document <;> rfl

theorem records_congr (h : History) {d e a b : Value} (documents : (d == e) = true)
    (actors : (a == b) = true) (role : Role) : h.Records d a role ↔ h.Records e b role := by
  rw [Records, Records, tally_congr h documents, contains_congr _ actors]

theorem records_record (h : History) (document actor : Value) (role : Role) (d a : Value)
    (r : Role) :
    (h.record document actor role).Records d a r ↔
      h.Records d a r ∨ (d == document) = true ∧ (a == actor) = true ∧ r = role := by
  rw [Records, Records, tally_record]
  cases here : d == document with
  | false => simp
  | true =>
    rw [tally_congr h here, if_pos rfl]
    by_cases same : r = role
    · subst same
      rw [Tally.actors_add, contains_insertInto, Bool.or_eq_true]
      simp
    · rw [Tally.actors_add_of_ne _ _ same]
      simp [same]

theorem records_recordAll (h : History) (document : Value) (role : Role) (actors : List Value)
    (d a : Value) (r : Role) :
    (h.recordAll document role actors).Records d a r ↔
      h.Records d a r ∨ (d == document) = true ∧ actors.contains a = true ∧ r = role := by
  induction actors generalizing h with
  | nil => simp [recordAll]
  | cons actor rest ih =>
    have step : h.recordAll document role (actor :: rest) =
        (h.record document actor role).recordAll document role rest := rfl
    rw [step, ih, records_record, List.contains_cons, Bool.or_eq_true]
    constructor
    · rintro ((old | ⟨here, same, is_role⟩) | ⟨here, later, is_role⟩)
      · exact Or.inl old
      · exact Or.inr ⟨here, Or.inl same, is_role⟩
      · exact Or.inr ⟨here, Or.inr later, is_role⟩
    · rintro (old | ⟨here, same | later, is_role⟩)
      · exact Or.inl (Or.inl old)
      · exact Or.inl (Or.inr ⟨here, same, is_role⟩)
      · exact Or.inr ⟨here, later, is_role⟩

def recordEach (h : History) (records : List Record) : History :=
  records.foldl (fun h r => h.record r.document r.actor r.role) h

theorem records_recordEach (h : History) (records : List Record) (d a : Value) (role : Role) :
    (h.recordEach records).Records d a role ↔ h.Records d a role ∨
      ∃ r ∈ records, (d == r.document) = true ∧ (a == r.actor) = true ∧ role = r.role := by
  induction records generalizing h with
  | nil => simp [recordEach]
  | cons r rest ih =>
    have step : h.recordEach (r :: rest) = (h.record r.document r.actor r.role).recordEach rest :=
      rfl
    rw [step, ih, records_record, List.exists_mem_cons_iff, or_assoc]

theorem records_ofRecords (records : List Record) (d a : Value) (role : Role) :
    (ofRecords records).Records d a role ↔
      ∃ r ∈ records, (d == r.document) = true ∧ (a == r.actor) = true ∧ role = r.role := by
  have nothing : ¬ empty.Records d a role := by
    cases role <;> exact Bool.false_ne_true
  exact (records_recordEach empty records d a role).trans (or_iff_right nothing)

theorem checkActors_eq_ok_iff {h : History} {place : Nat} {role : Role} {document : Value}
    {actors : List Value} :
    h.checkActors place role document actors = .ok () ↔
      ∀ a ∈ actors, ¬ h.Records document a role := by
  induction actors with
  | nil => simp [checkActors]
  | cons actor rest ih =>
    rw [checkActors, List.forall_mem_cons, Records]
    split
    · rename_i recorded
      simp [recorded]
    · rename_i fresh
      simp [fresh, ih]

/-- What a step that was carried out adds to a history, and what was not in it before. -/
structure CarriedOut (role : Role) (actors documents : List Value) (before after : History) :
    Prop where
  records : ∀ d a r, after.Records d a r ↔ before.Records d a r ∨
    documents.contains d = true ∧ actors.contains a = true ∧ r = role
  unrecorded : ∀ d ∈ documents, ∀ a ∈ actors, ¬ before.Records d a role

theorem carriedOut_of_carryOut {place : Nat} {role : Role} {actors documents : List Value}
    {before after : History} (ok : carryOut place role actors documents before = .ok after) :
    CarriedOut role actors documents before after := by
  induction documents generalizing before with
  | nil =>
    obtain rfl := Except.ok.inj ok
    exact ⟨by simp, by simp⟩
  | cons document rest ih =>
    rw [carryOut] at ok
    obtain ⟨_, _, ok⟩ := bind_eq_ok.1 ok
    obtain ⟨_, checked, ok⟩ := bind_eq_ok.1 ok
    have later := ih ok
    refine ⟨fun d a r => ?_, fun d member a listed recorded => ?_⟩
    · rw [later.records, records_recordAll, List.contains_cons, Bool.or_eq_true]
      constructor
      · rintro ((old | ⟨here, known, is_role⟩) | ⟨among, known, is_role⟩)
        · exact Or.inl old
        · exact Or.inr ⟨Or.inl here, known, is_role⟩
        · exact Or.inr ⟨Or.inr among, known, is_role⟩
      · rintro (old | ⟨here | among, known, is_role⟩)
        · exact Or.inl (Or.inl old)
        · exact Or.inl (Or.inr ⟨here, known, is_role⟩)
        · exact Or.inr ⟨among, known, is_role⟩
    · rcases List.mem_cons.1 member with rfl | among
      · exact checkActors_eq_ok_iff.1 checked a listed recorded
      · exact later.unrecorded d among a listed
          ((records_recordAll ..).2 (Or.inl recorded))

theorem actors_recordAll_of_ne (h : History) (document : Value) {role r : Role} (other : r ≠ role)
    (actors : List Value) (d : Value) :
    ((h.recordAll document role actors).tally d).actors r = (h.tally d).actors r := by
  induction actors generalizing h with
  | nil => rfl
  | cons actor rest ih =>
    have step : h.recordAll document role (actor :: rest) =
        (h.record document actor role).recordAll document role rest := rfl
    rw [step, ih, tally_record]
    split
    · rename_i same
      rw [Tally.actors_add_of_ne _ _ other, tally_congr h same]
    · rfl

theorem checkState_recordAll (h : History) (place : Nat) (role : Role) (document : Value)
    (actors : List Value) (d : Value) :
    (h.recordAll document role actors).checkState place role d = h.checkState place role d := by
  by_cases signs : role = .signature
  · subst signs
    rfl
  · have signers : ((h.recordAll document role actors).tally d).signers = (h.tally d).signers :=
      h.actors_recordAll_of_ne document (Ne.symm signs) actors d
    simp only [checkState, signers]

theorem checkState_of_carryOut {place : Nat} {role : Role} {actors documents : List Value}
    {before after : History} (ok : carryOut place role actors documents before = .ok after) :
    ∀ d ∈ documents, before.checkState place role d = .ok () := by
  induction documents generalizing before with
  | nil => simp
  | cons document rest ih =>
    rw [carryOut] at ok
    obtain ⟨_, state, ok⟩ := bind_eq_ok.1 ok
    obtain ⟨_, _, ok⟩ := bind_eq_ok.1 ok
    rw [List.forall_mem_cons]
    refine ⟨state, fun d member => ?_⟩
    rw [← before.checkState_recordAll place role document actors d]
    exact ih ok d member

end History
end SignatureRouting
