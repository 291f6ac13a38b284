import SignatureRouting.Proofs.Continuation
import SignatureRouting.Proofs.Loading
import SignatureRouting.Proofs.Reachable
import SignatureRouting.Proofs.Rearrangement
import SignatureRouting.Storage

/-!
Storing and loading undo each other. What is loaded from the snapshot of an automaton equals it and
behaves like it, even where a quota comes back in another form, and the snapshot of what is loaded
from a canonical value is that value. Every automaton that a session comes to can be stored.
-/
namespace SignatureRouting
open Value

section Forall₂
variable {α β : Type} {R : α → β → Prop} {l : List α} {m : List β}

theorem length_takeWhile_of_forall₂ {p : α → Bool} {q : β → Bool}
    (alike : ∀ a b, R a b → p a = q b) (related : List.Forall₂ R l m) :
    (l.takeWhile p).length = (m.takeWhile q).length := by
  induction related with
  | nil => rfl
  | @cons a b l m first _ ih =>
    rw [List.takeWhile_cons, List.takeWhile_cons, alike a b first]
    cases q b with
    | true => exact congrArg (· + 1) ih
    | false => rfl

theorem forall₂_set (related : List.Forall₂ R l m) {a : α} {b : β} (new : R a b) (i : Nat) :
    List.Forall₂ R (l.set i a) (m.set i b) := by
  induction related generalizing i with
  | nil => exact .nil
  | cons first later ih =>
    cases i with
    | zero => exact .cons new later
    | succ i => exact .cons first (ih i)

end Forall₂

namespace Node

section Requota
variable {n : Node} {quota : Value} (same : (n.quota == quota) = true)
include same

/-! Only the size of a quota matters, and not its form. -/

theorem isComplete_requota (d : OpenDocument) : d.isComplete quota = d.isComplete n.quota :=
  (le_congr same _).symm

theorem obstacle?_requota (actor document : Value) :
    ({ n with quota := quota } : Node).obstacle? actor document = n.obstacle? actor document := by
  have opened : ({ n with quota := quota } : Node).open? document = n.open? document := rfl
  simp only [obstacle?, opened, isComplete_requota same]

theorem checkEach_requota (actor : Value) (documents : List Value) :
    ({ n with quota := quota } : Node).checkEach actor documents = n.checkEach actor documents := by
  induction documents with
  | nil => rfl
  | cons d rest ih => rw [checkEach, checkEach, obstacle?_requota same, ih]

theorem accept_requota (x : Action) :
    ({ n with quota := quota } : Node).accept x = n.accept x := by
  have eligible : ({ n with quota := quota } : Node).isEligible x.actor =
      n.isEligible x.actor := rfl
  have refused : ∀ requested, ({ n with quota := quota } : Node).refuseUncounted x.actor requested =
      n.refuseUncounted x.actor requested := fun _ => rfl
  simp only [accept, eligible, refused, checkEach_requota same, isNumber_congr same]

theorem record_requota (actor : Value) (requested : List Value) :
    ({ n with quota := quota } : Node).record actor requested =
      { n.record actor requested with quota := quota } := by
  have marked : ∀ places, ({ n with quota := quota } : Node).marked actor places =
      n.marked actor places := fun _ => rfl
  have position : ({ n with quota := quota } : Node).position? = n.position? := rfl
  simp only [record, marked, position, isComplete_requota same, le_congr same]

theorem toValue_requota : (toValue { n with quota := quota } == n.toValue) = true := by
  have documents : ({ n with quota := quota } : Node).documents = n.documents := rfl
  have progress : ({ n with quota := quota } : Node).progress = n.progress := rfl
  refine object_congr ?_
  simp only [documents, progress, List.forall₂_cons, same_refl, same_symm same, and_self,
    List.Forall₂.nil]

end Requota

namespace Parts

def fields (p : Parts) : List (String × Value) := [
  ("step_index", p.step),
  ("role_type", .text p.role.storedName),
  ("tag", p.tag),
  ("aids", .list p.actors),
  ("dids", .list p.documents),
  ("concerned_actors", p.quota),
  ("working_documents", .list (p.progress.map .list)),
  ("done_aids", .list p.doneActors),
  ("done_dids", .list p.doneDocuments)]

structure IsCanonical (p : Parts) : Prop where
  step : ∃ place : Int, p.step = .int place
  tag : ∃ word : String, p.tag = .text word
  quota : ∃ count : Int, p.quota = .int count
  aligned : p.progress.length = p.documents.length
  identifiers : ∀ d ∈ p.documents, d.isIdentifier = true

theorem namedOnce_fields (p : Parts) : NamedOnce p.fields := by simp [NamedOnce, fields]

theorem IsCanonical.exists_node {p : Parts} (canonical : p.IsCanonical) :
    ∃ n : Node, n.toValue = .object p.fields ∧ ofValue n.toValue = .ok n := by
  obtain ⟨n, made⟩ : ∃ n, p.node? = .ok n := by
    rw [node?, withOpened, if_neg (not_not_intro canonical.aligned),
      if_pos (List.all_eq_true.2 canonical.identifiers)]
    exact ⟨_, rfl⟩
  obtain ⟨documents, progress, _, same⟩ := of_withOpened made
  have written : n.toValue = .object p.fields := by
    rw [toValue, documents, progress, same]
    rfl
  have unchanged : n.step = p.step ∧ n.tag = p.tag ∧ n.quota = p.quota := by
    rw [same]
    exact ⟨rfl, rfl, rfl⟩
  obtain ⟨step, tag, quota⟩ := unchanged
  obtain ⟨count, is_count⟩ := canonical.quota
  have integral : n.quota.IsIntegral := by
    rw [quota, is_count]
    exact isIntegral_int count
  have storable : n.IsStorable :=
    ⟨step ▸ canonical.step, tag ▸ canonical.tag, integral, documents ▸ canonical.identifiers⟩
  -- A quota that is an integer already comes back as it is.
  obtain ⟨k, same_count, loaded⟩ := ofValue_toValue storable
  rw [quota, is_count, int_same_int] at same_count
  have own : { n with quota := .int k } = n := by
    rw [← same_count, ← is_count, ← quota]
  rw [own] at loaded
  exact ⟨n, written, loaded⟩

end Parts

theorem ofValue_perm {fields others : List (String × Value)} (once : NamedOnce others)
    (perm : fields.Perm others) : ofValue (.object fields) = ofValue (.object others) := by
  simp only [ofValue, Parts.read, required_perm once perm, optionalCollection_perm once perm]

end Node

def Value.IsNodeSnapshot (v : Value) : Prop :=
  ∃ (p : Node.Parts) (fields : List (String × Value)),
    v = .object fields ∧ fields.Perm p.fields ∧ p.IsCanonical

def Value.IsSnapshot (v : Value) : Prop :=
  ∃ (nodes : List Value) (index : Nat) (fields : List (String × Value)),
    v = .object fields ∧ fields.Perm [("nodes", .list nodes), ("index", .int index)] ∧
      (∀ stored ∈ nodes, stored.IsNodeSnapshot) ∧ index ≤ nodes.length

theorem Node.ofValue_snapshot {v : Value} (canonical : v.IsNodeSnapshot) :
    ∃ n, ofValue v = .ok n ∧ (n.toValue == v) = true := by
  obtain ⟨p, fields, rfl, perm, canonical⟩ := canonical
  obtain ⟨n, written, loaded⟩ := canonical.exists_node
  refine ⟨n, ?_, ?_⟩
  · rw [ofValue_perm p.namedOnce_fields perm, ← written, loaded]
  · rw [written]
    exact same_symm (same_of_perm p.namedOnce_fields perm)

namespace Automaton

theorem ofValue_perm {fields others : List (String × Value)} (once : NamedOnce others)
    (perm : fields.Perm others) : ofValue (.object fields) = ofValue (.object others) := by
  simp only [ofValue, required_perm once perm]

theorem ofValue_snapshot {v : Value} (canonical : v.IsSnapshot) :
    ∃ a, ofValue v = .ok a ∧ (a.toValue == v) = true := by
  obtain ⟨nodes, index, fields, rfl, perm, each, inside⟩ := canonical
  have once : NamedOnce [("nodes", .list nodes), ("index", .int index)] := by simp [NamedOnce]
  obtain ⟨loaded, read, alike⟩ := exists_mapM fun v member => Node.ofValue_snapshot (each v member)
  refine ⟨⟨loaded, index⟩, ?_, ?_⟩
  · rw [ofValue_perm once perm]
    exact ofValue_stored read (alike.length_eq ▸ inside)
  · refine same_trans (object_congr ?_) (same_symm (same_of_perm once perm))
    have listed : (Value.list (loaded.map Node.toValue) == Value.list nodes) = true :=
      list_congr (List.forall₂_map_left_iff.2 alike.flip)
    exact .cons ⟨rfl, listed⟩ (.cons ⟨rfl, same_refl _⟩ .nil)

section Reloaded
variable {a b : Automaton} (reloaded : Reloaded a b)
include reloaded

/-! What is loaded from the snapshot of an automaton goes on like it. -/

theorem Reloaded.same : (b == a) = true := by
  have nodes : (Value.list (b.nodes.map Node.toValue) == Value.list (a.nodes.map Node.toValue)) =
      true := by
    refine list_congr (List.forall₂_map_left_iff.2 (List.forall₂_map_right_iff.2 ?_))
    refine List.Forall₂.flip (reloaded.nodes.imp ?_)
    rintro m n ⟨k, same, rfl⟩
    exact Node.toValue_requota same
  refine object_congr (.cons ⟨rfl, nodes⟩ (.cons ⟨rfl, ?_⟩ .nil))
  rw [reloaded.index]
  exact same_refl _

theorem Reloaded.eq_of_int (counted : ∀ n ∈ a.nodes, ∃ k, n.quota = .int k) : b = a := by
  have nodes : List.Forall₂ Eq a.nodes b.nodes := by
    refine ((List.forall₂_and_left _ _).2 ⟨counted, reloaded.nodes⟩).imp ?_
    rintro m n ⟨⟨count, is_count⟩, k, same, rfl⟩
    rw [is_count, int_same_int] at same
    rw [← same, ← is_count]
  rw [List.forall₂_eq_eq_eq] at nodes
  obtain ⟨nodes', index⟩ := b
  exact congr (congrArg Automaton.mk nodes.symm) reloaded.index

theorem Reloaded.landing : b.landing = a.landing := by
  have finished : (List.takeWhile Node.isFinished (a.nodes.drop a.index)).length =
      (List.takeWhile Node.isFinished (b.nodes.drop a.index)).length := by
    refine length_takeWhile_of_forall₂ ?_ (List.forall₂_drop a.index reloaded.nodes)
    rintro m n ⟨k, _, rfl⟩
    rfl
  rw [Automaton.landing, Automaton.landing, reloaded.index, finished]

theorem Reloaded.getElem? (i : Nat) : a.nodes[i]? = none ∧ b.nodes[i]? = none ∨
    ∃ n k, a.nodes[i]? = some n ∧ (n.quota == .int k) = true ∧
      b.nodes[i]? = some { n with quota := .int k } := by
  have count := reloaded.nodes.length_eq
  by_cases inside : i < a.nodes.length
  · obtain ⟨k, same, alike⟩ := reloaded.nodes.get inside (count ▸ inside)
    rw [List.get_eq_getElem, List.get_eq_getElem] at alike
    refine Or.inr ⟨_, k, List.getElem?_eq_getElem inside, same, ?_⟩
    rw [List.getElem?_eq_getElem (count ▸ inside), alike]
  · exact Or.inl ⟨List.getElem?_eq_none (by omega), List.getElem?_eq_none (by omega)⟩

theorem Reloaded.advance {n : Node} {k : Int} (same : (n.quota == .int k) = true) :
    Reloaded (a.advance n) (b.advance { n with quota := .int k }) := by
  constructor
  · rw [Automaton.advance, Automaton.advance, reloaded.landing]
    exact forall₂_set reloaded.nodes ⟨k, same, rfl⟩ a.landing
  · rw [Automaton.advance, Automaton.advance, reloaded.landing]

theorem Reloaded.transition (x : Action) :
    (∃ e, b.transition x = .error e ∧ a.transition x = .error e) ∨
      ∃ t u, b.transition x = .ok t ∧ a.transition x = .ok u ∧ Reloaded u.result t.result := by
  -- Whether a node is finished does not depend on its quota, so both land at the same place.
  rcases reloaded.getElem? a.landing with ⟨first, second⟩ | ⟨n, k, here, same, loaded⟩
  · rw [← reloaded.landing] at second
    exact Or.inl ⟨.terminated, transition_terminated_iff.2 second,
      transition_terminated_iff.2 first⟩
  · rw [← reloaded.landing] at loaded
    have accept := Node.accept_requota same x
    cases accepted : n.accept x with
    | error e =>
      exact Or.inl ⟨e, transition_of_refused loaded (accept.trans accepted),
        transition_of_refused here accepted⟩
    | ok requested =>
      refine Or.inr ⟨_, _,
        transition_eq_ok_iff.2 ⟨_, requested, loaded, accept.trans accepted, rfl⟩,
        transition_eq_ok_iff.2 ⟨n, requested, here, accepted, rfl⟩, ?_⟩
      rw [Node.record_requota same]
      exact reloaded.advance same

theorem Reloaded.attemptAll (attempts : List Attempt) :
    (b.attemptAll attempts).1 = (a.attemptAll attempts).1 ∧
      Reloaded (a.attemptAll attempts).2 (b.attemptAll attempts).2 :=
  attemptAll_related (R := fun b a => Reloaded a b)
    (fun x together => attempt_related (R := fun b a => Reloaded a b) together.transition x)
    reloaded attempts

end Reloaded

/-- An automaton that can be stored. Its cursor is not outside, and its documents are identifiers,
wherever it comes from. -/
structure IsStorable (a : Automaton) : Prop where
  nodes : ∀ n ∈ a.nodes, n.IsStorable
  inside : a.index ≤ a.nodes.length

theorem isStorable_of_build {setting : Setting} {history : History} {steps : Option (List StepItem)}
    {documents : Option (List Value)} {w : Workflow}
    (built : Workflow.build setting history steps documents = .ok w)
    (integral : ∀ item ∈ steps.getD [], item.IsIntegral) : w.automaton.IsStorable := by
  have keeps := keeps_of_build built integral .start
  exact ⟨keeps.isStorable (Workflow.fresh_of_build built) (quota_integral built integral),
    keeps.inside⟩

theorem isStorable_of_loaded {v : Value} {a : Automaton} (loaded : ofValue v = .ok a) :
    a.IsStorable := by
  obtain ⟨⟨_, items, _, _, each⟩, _, inside⟩ := loadedFrom_of_ofValue loaded
  refine ⟨fun n member => ?_, inside⟩
  obtain ⟨i, listed, rfl⟩ := List.mem_iff_getElem.1 member
  exact (each.get (each.length_eq ▸ listed) listed).storable

end Automaton

theorem Node.IsStorable.record {n : Node} (storable : n.IsStorable) (actor : Value)
    (requested : List Value) : (n.record actor requested).IsStorable := by
  refine ⟨storable.step, storable.tag, storable.quota, fun d member => storable.identifiers d ?_⟩
  obtain ⟨o, still, rfl⟩ := List.mem_map.1 member
  obtain ⟨i, inside, rfl⟩ := List.mem_mapIdx.1 (List.mem_filter.1 still).1
  refine List.mem_map.2 ⟨_, List.getElem_mem inside, ?_⟩
  split <;> rfl

section Storable
variable {a : Automaton} (storable : a.IsStorable)
include storable

theorem Automaton.IsStorable.transition {x : Action} {t : Transition}
    (accepted : a.transition x = .ok t) : t.result.IsStorable := by
  obtain ⟨count, inside⟩ := Automaton.index_le_of_transition accepted
  obtain ⟨n, requested, here, _, rfl⟩ := Automaton.transition_eq_ok_iff.1 accepted
  refine ⟨fun m member => ?_, count ▸ inside⟩
  rcases List.mem_or_eq_of_mem_set member with old | rfl
  · exact storable.nodes m old
  · exact (storable.nodes n (List.mem_of_getElem? here)).record _ _

theorem Automaton.IsStorable.attempt {b : Automaton} {x : Attempt}
    (accepted : a.attempt x = .ok b) : b.IsStorable := by
  cases listed : x.documents.elements? with
  | some ds =>
    rw [Automaton.attempt_of_collection listed] at accepted
    cases taken : a.transition ⟨x.actor, x.tag, ds⟩ with
    | error e =>
      rw [taken] at accepted
      contradiction
    | ok t =>
      rw [taken] at accepted
      obtain rfl := Except.ok.inj accepted
      exact storable.transition taken
  | none =>
    rw [Automaton.attempt_of_no_collection listed] at accepted
    split at accepted <;> contradiction

theorem Automaton.IsStorable.split {s : Split} (split : a.split? = some s) :
    s.previous.IsStorable ∧ s.next.IsStorable := by
  obtain ⟨k, within, rfl⟩ := Automaton.split?_eq_some split
  refine ⟨⟨fun n member => storable.nodes n (List.mem_of_mem_take member), ?_⟩,
    fun n member => storable.nodes n (List.mem_of_mem_drop member), Nat.zero_le _⟩
  exact Nat.le_of_eq (List.length_take_of_le within).symm

end Storable

/-- The automatons that a session comes to: those that are built, with cardinalities that are whole
numbers, and those that are loaded; and from these on, by actions and splits, all others. -/
inductive Produced : Automaton → Prop where
  | build {setting : Setting} {history : History} {steps : Option (List StepItem)}
      {documents : Option (List Value)} {w : Workflow}
      (built : Workflow.build setting history steps documents = .ok w)
      (integral : ∀ item ∈ steps.getD [], item.IsIntegral) : Produced w.automaton
  | load {v : Value} {a : Automaton} (loaded : Automaton.ofValue v = .ok a) : Produced a
  | act {a b : Automaton} {x : Attempt} (before : Produced a) (accepted : a.attempt x = .ok b) :
      Produced b
  | previous {a : Automaton} {s : Split} (before : Produced a) (split : a.split? = some s) :
      Produced s.previous
  | next {a : Automaton} {s : Split} (before : Produced a) (split : a.split? = some s) :
      Produced s.next

theorem Produced.isStorable {a : Automaton} (produced : Produced a) : a.IsStorable := by
  induction produced with
  | build built integral => exact Automaton.isStorable_of_build built integral
  | load loaded => exact Automaton.isStorable_of_loaded loaded
  | act _ accepted ih => exact ih.attempt accepted
  | previous _ split ih => exact (ih.split split).1
  | next _ split ih => exact (ih.split split).2

namespace Storage

theorem load_of_ofValue {v : Value} {a : Automaton} (loaded : Automaton.ofValue v = .ok a) :
    load v = .ok (some a) := by
  cases v with
  | null => contradiction
  | _ => simp only [load, loaded, Except.map]

end Storage

theorem snapshots_round_trip :
    (∀ a : Automaton, a.IsStorable → ∃ b, Automaton.ofValue a.toValue = .ok b ∧ (b == a) = true ∧
      ((∀ n ∈ a.nodes, ∃ k, n.quota = .int k) → b = a) ∧
      Storage.load (Storage.bind (some a)) = .ok (some b) ∧
      ∀ attempts, (b.attemptAll attempts).1 = (a.attemptAll attempts).1 ∧
        ((b.attemptAll attempts).2 == (a.attemptAll attempts).2) = true) ∧
    (∀ v : Value, v.IsSnapshot → ∃ a, Automaton.ofValue v = .ok a ∧ (a.toValue == v) = true ∧
      Storage.load v = .ok (some a) ∧ (Storage.bind (some a) == v) = true) ∧
    (Storage.load .null = .ok none ∧ Storage.bind none = .null) ∧
    ∀ a, Produced a → a.IsStorable := by
  refine ⟨fun a storable => ?_, fun v canonical => ?_, ⟨rfl, rfl⟩, fun a => Produced.isStorable⟩
  · obtain ⟨b, loaded, reloaded⟩ := Automaton.ofValue_toValue storable.nodes storable.inside
    refine ⟨b, loaded, reloaded.same, reloaded.eq_of_int, Storage.load_of_ofValue loaded,
      fun attempts => ?_⟩
    obtain ⟨outcomes, related⟩ := reloaded.attemptAll attempts
    exact ⟨outcomes, related.same⟩
  · obtain ⟨a, loaded, same⟩ := Automaton.ofValue_snapshot canonical
    exact ⟨a, loaded, same, Storage.load_of_ofValue loaded, same⟩

def writtenBackwards : Value :=
  .object [("index", .int 0), ("nodes", .list [.object (Node.Parts.fields
    ⟨.int 1, .expedition, .text "to", [.int 4], [.int 10], .int 1, [[]], [], [.int 11]⟩).reverse])]

theorem writtenBackwards_isSnapshot : writtenBackwards.IsSnapshot := by
  refine ⟨_, 0, _, rfl, .swap _ _ _, fun stored member => ?_, Nat.zero_le _⟩
  obtain rfl := List.mem_singleton.1 member
  exact ⟨_, _, rfl, List.reverse_perm _, ⟨1, rfl⟩, ⟨"to", rfl⟩, ⟨1, rfl⟩, rfl, by decide⟩

theorem mailing_round_trip :
    (∃ b, Automaton.ofValue mailing.automaton.toValue = .ok b ∧ b = mailing.automaton ∧
      (b.attemptAll sending).1 = (mailing.automaton.attemptAll sending).1) ∧
    ∃ a, Automaton.ofValue writtenBackwards = .ok a ∧ (a.toValue == writtenBackwards) = true := by
  obtain ⟨reloads, rewrites, _, closed⟩ := snapshots_round_trip
  have storable := closed _ (.build mailing_built signThenSend_integral)
  obtain ⟨b, loaded, _, exactly, _, alike⟩ := reloads mailing.automaton storable
  have counted : ∀ n ∈ mailing.automaton.nodes, ∃ k, n.quota = .int k := by
    intro n member
    simp only [mailing, List.mem_cons, List.not_mem_nil, or_false] at member
    rcases member with rfl | rfl <;> exact ⟨_, rfl⟩
  obtain ⟨a, read, same, _⟩ := rewrites writtenBackwards writtenBackwards_isSnapshot
  exact ⟨⟨b, loaded, exactly counted, (alike sending).1⟩, a, read, same⟩

end SignatureRouting
