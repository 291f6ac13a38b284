import SignatureRouting.Automaton.Cursor
import SignatureRouting.Proofs.Continuation
import SignatureRouting.Proofs.Frontier
import SignatureRouting.Proofs.Loading
import SignatureRouting.Proofs.Reachable

/-!
Automatons that were put together by hand or loaded, whatever they hold: documents that are open
twice or done as well, more progress than the quota asks for, actors who are done and not. Only the
checks that are made when a node and an automaton are put together can be relied on. Every action
keeps what they check, or is refused for one of four reasons, and a split keeps it in both parts.
-/
namespace SignatureRouting
open Value

namespace Node

structure IsSound (n : Node) : Prop where
  assembled : n.withOpened n.documents n.progress = .ok n
  countable : n.quota.isNumber = true

/-- A node with whatever in its fields, apart from a quota that is a number. -/
inductive Made : Node → Prop where
  | assembled {parts n : Node} {documents : List Value} {progress : List (List Value)}
      (countable : parts.quota.isNumber = true)
      (put_together : parts.withOpened documents progress = .ok n) : Made n

variable {n : Node}

theorem assembled_iff : n.withOpened n.documents n.progress = .ok n ↔
    ∀ d ∈ n.documents, d.isIdentifier = true := by
  constructor
  · intro assembled
    exact (of_withOpened assembled).2.2.1
  · intro identifiers
    exact withOpened_parts n identifiers n.quota

theorem isSound_of_made (made : n.Made) : n.IsSound := by
  obtain ⟨countable, put_together⟩ := made
  obtain ⟨documents, _, identifiers, same⟩ := of_withOpened put_together
  constructor
  · exact assembled_iff.2 (documents ▸ identifiers)
  · rw [same]
    exact countable

theorem isSound_of_storable (storable : n.IsStorable) : n.IsSound := by
  obtain ⟨k, same⟩ := storable.quota
  constructor
  · exact assembled_iff.2 storable.identifiers
  · rw [isNumber_congr same]
    exact int_isNumber k

theorem position?_inside {d : Value} {i : Nat} (found : n.position? d = some i) :
    i < n.documents.length ∧ i < n.progress.length := by
  obtain ⟨o, entry, _⟩ := lastIndex?_eq_some found
  have inside := (List.getElem?_eq_some_iff.1 entry).1
  rw [documents, progress, List.length_map, List.length_map]
  exact ⟨inside, inside⟩

theorem mem_documents_of_record {actor d : Value} {requested : List Value}
    (member : d ∈ (n.record actor requested).documents) : d ∈ n.documents := by
  obtain ⟨o, opened, rfl⟩ := List.mem_map.1 member
  obtain ⟨i, inside, entry⟩ := List.mem_mapIdx.1 (List.mem_filter.1 opened).1
  have same : o.id = n.opened[i].id := by
    rw [← entry]
    split <;> rfl
  rw [same]
  exact List.mem_map_of_mem (List.getElem_mem inside)

theorem IsSound.record (sound : n.IsSound) (actor : Value) (requested : List Value) :
    (n.record actor requested).IsSound := by
  constructor
  · apply assembled_iff.2
    intro d member
    exact assembled_iff.1 sound.assembled d (mem_documents_of_record member)
  · exact sound.countable

end Node

namespace Automaton

structure IsSound (a : Automaton) : Prop where
  placed : at? a.nodes a.index = .ok a
  nodes : ∀ n ∈ a.nodes, n.IsSound

inductive Made : Automaton → Prop where
  | assembled {nodes : List Node} {index : Int} {a : Automaton} (each : ∀ n ∈ nodes, n.Made)
      (put_together : at? nodes index = .ok a) : Made a
  | loaded {v : Value} {a : Automaton} (loaded : ofValue v = .ok a) : Made a

inductive Refuses (a : Automaton) (x : Action) : ActionError → Prop where
  | terminated (past : ∀ n ∈ a.nodes.drop a.index, n.isFinished = true) : Refuses a x .terminated
  | landed {n : Node} {e : ActionError} (here : a.nodes[a.landing]? = some n)
      (refused : n.Refuses x e) : Refuses a x e

structure LooksInside (a : Automaton) : Prop where
  current : a.isAtEnd = false → a.index < a.nodes.length
  skipped : ∀ i, a.index ≤ i → i < a.landing → i < a.nodes.length
  landing : a.landing ≤ a.nodes.length
  opened : ∀ n ∈ a.nodes, ∀ d i, n.position? d = some i →
    i < n.documents.length ∧ i < n.progress.length

variable {a : Automaton}

theorem placed_iff : at? a.nodes a.index = .ok a ↔ a.index ≤ a.nodes.length := by
  constructor
  · intro placed
    unfold at? at placed
    split at placed
    · rename_i inside
      exact Int.ofNat_le.1 inside.2
    · contradiction
  · exact at?_of_le

theorem isSound_of_made (made : a.Made) : a.IsSound := by
  cases made with
  | assembled each put_together =>
    obtain ⟨rfl, _, inside⟩ := of_at? put_together
    exact ⟨placed_iff.2 inside, fun n member => Node.isSound_of_made (each n member)⟩
  | loaded loaded =>
    have from_fields := loadedFrom_of_ofValue loaded
    obtain ⟨_, items, _, _, each⟩ := from_fields.nodes
    refine ⟨placed_iff.2 from_fields.inside, fun n member => ?_⟩
    obtain ⟨i, inside, rfl⟩ := List.mem_iff_getElem.1 member
    have read := each.get (each.length_eq ▸ inside) inside
    exact Node.isSound_of_storable read.storable

theorem outside_iff :
    a.nodes[a.landing]? = none ↔ ∀ n ∈ a.nodes.drop a.index, n.isFinished = true := by
  have cut := List.takeWhile_prefix (l := a.nodes.drop a.index) Node.isFinished
  have short := cut.length_le
  rw [List.length_drop] at short
  rw [List.getElem?_eq_none_iff, landing]
  constructor
  · intro past n member
    have whole : (a.nodes.drop a.index).takeWhile Node.isFinished = a.nodes.drop a.index := by
      apply cut.eq_of_length
      rw [List.length_drop]
      omega
    exact List.takeWhile_eq_self_iff.1 whole n member
  · intro finished
    rw [List.takeWhile_eq_self_iff.2 finished, List.length_drop]
    omega

theorem Refuses.raisesIf {x : Action} {e : ActionError} (refuses : a.Refuses x e) :
    e.failure.RaisesIf (e.shown.all isWritable) fun s => s.className ∈ ["WorkflowTerminatedError",
      "WrongProcessTagError", "ActorNotEligibleError", "DocumentNotActionableError"] := by
  cases refuses with
  | terminated _ => exact ⟨_, rfl, by decide⟩
  | landed _ refused =>
    cases refused with
    | wrongTag _ => exact Failure.raisesIf_raised _ (by simp [SigningError.className])
    | notEligible _ _ => exact Failure.raisesIf_raised _ (by simp [SigningError.className])
    | notActionable _ _ _ _ _ =>
      exact Failure.raisesIf_raised _ (by simp [SigningError.className])

section Sound
variable (sound : a.IsSound)
include sound

theorem IsSound.refused_iff {x : Action} (identifiers : ∀ d ∈ x.documents, d.isIdentifier = true)
    (e : ActionError) : a.transition x = .error e ↔ a.Refuses x e := by
  rw [transition_eq_error_iff]
  constructor
  · rintro (⟨nowhere, rfl⟩ | ⟨n, here, refused⟩)
    · exact .terminated (outside_iff.1 nowhere)
    · have countable := (sound.nodes n (List.mem_of_getElem? here)).countable
      exact .landed here ((Node.accept_eq_error_iff countable identifiers).1 refused)
  · rintro (past | ⟨here, refused⟩)
    · exact Or.inl ⟨outside_iff.2 past, rfl⟩
    · have countable := (sound.nodes _ (List.mem_of_getElem? here)).countable
      exact Or.inr ⟨_, here, (Node.accept_eq_error_iff countable identifiers).2 refused⟩

theorem IsSound.looksInside : a.LooksInside := by
  have inside := placed_iff.1 sound.placed
  have short := (List.takeWhile_prefix (l := a.nodes.drop a.index) Node.isFinished).length_le
  rw [List.length_drop] at short
  have landing : a.landing ≤ a.nodes.length := by
    rw [Automaton.landing]
    omega
  constructor
  case current =>
    intro running
    unfold isAtEnd current? at running
    split at running
    · contradiction
    · rename_i n here
      exact (List.getElem?_eq_some_iff.1 here).1
  case skipped => exact fun i _ before => Nat.lt_of_lt_of_le before landing
  case landing => exact landing
  case opened => exact fun n _ d i => Node.position?_inside

theorem IsSound.transition {x : Action} {t : Transition} (accepted : a.transition x = .ok t) :
    t.result.IsSound := by
  obtain ⟨count, inside⟩ := index_le_of_transition accepted
  constructor
  · exact placed_iff.2 (count ▸ inside)
  · intro m member
    obtain ⟨n, here, became, _⟩ := of_transition accepted
    rw [(result_of_transition accepted).1] at member
    rcases List.mem_or_eq_of_mem_set member with old | rfl
    · exact sound.nodes m old
    · rw [became]
      exact (sound.nodes n (List.mem_of_getElem? here)).record _ _

theorem IsSound.run {b : Automaton} {deeds : List Deed} (run : Run a deeds b) : b.IsSound := by
  induction run with
  | none => exact sound
  | act _ accepted ih => exact ih.transition accepted

theorem IsSound.findSplitPoint : a.findSplitPoint = .ok a.splitPoint? := by
  unfold Automaton.findSplitPoint
  rw [if_pos]
  cases here : a.current? with
  | none => rfl
  | some n =>
    have countable := (sound.nodes n (List.mem_of_getElem? here)).countable
    simp [Node.isCountable, countable]

theorem IsSound.split {s : Split} (split : a.split? = some s) :
    s.previous.IsSound ∧ s.next.IsSound := by
  obtain ⟨k, within, rfl⟩ := split?_eq_some split
  constructor
  · constructor
    · apply placed_iff.2
      simp [splitAt, within]
    · intro n member
      exact sound.nodes n (List.mem_of_mem_take member)
  · constructor
    · exact placed_iff.2 (Nat.zero_le _)
    · intro n member
      exact sound.nodes n (List.mem_of_mem_drop member)

end Sound

/-- What is come by passes its checks for good: actions keep them or are refused for one of four
reasons, nothing is looked up in vain, and a split keeps them in both parts. -/
theorem made_stays_sound (made : a.Made) :
    (∀ deeds b, Run a deeds b → b.IsSound) ∧ a.LooksInside ∧
    (∀ x : Action, (∀ d ∈ x.documents, d.isIdentifier = true) →
      ((∃ t, a.transition x = .ok t ∧ t.result.IsSound) ∨
        ∃ e, a.transition x = .error e ∧ ((∀ v ∈ e.shown, v.isWritable = true) →
          ∃ s, e.failure = .signing s ∧ s.className ∈ ["WorkflowTerminatedError",
            "WrongProcessTagError", "ActorNotEligibleError", "DocumentNotActionableError"])) ∧
      ∀ e, a.transition x = .error e ↔ a.Refuses x e) ∧
    a.findSplitPoint = .ok a.splitPoint? ∧
    ∀ s, a.split? = some s → s.previous.IsSound ∧ s.next.IsSound := by
  have sound := isSound_of_made made
  refine ⟨fun deeds b run => sound.run run, sound.looksInside, fun x identifiers => ?_,
    sound.findSplitPoint, fun s => sound.split⟩
  have refused := sound.refused_iff identifiers
  refine ⟨?_, refused⟩
  cases outcome : a.transition x with
  | ok t => exact Or.inl ⟨t, rfl, sound.transition outcome⟩
  | error e => exact Or.inr ⟨e, rfl, ((refused e).1 outcome).raisesIf.signing⟩

end Automaton

/-- A snapshot that no run comes to: one document is open twice, once with more progress than the
quota asks for, another is open and done, and an actor is done and among those who may act. -/
def muddledSnapshot : Value := .object [
  ("nodes", .list [.object [
    ("step_index", .int 0), ("role_type", .text "SIGNATURE"), ("tag", .text "cosign"),
    ("aids", .list [.int 1, .int 2]), ("dids", .list [.int 10, .int 11, .int 10]),
    ("concerned_actors", .int 2),
    ("working_documents", .list [.list [.int 1, .int 3, .int 4], .list [], .list [.int 3]]),
    ("done_aids", .list [.int 1]), ("done_dids", .list [.int 11])]]),
  ("index", .int 0)]

/-- The action is counted at the later place of the document that is open twice, and completes it
at both places. -/
theorem made_stays_sound_muddled :
    ∃ a t, Automaton.ofValue muddledSnapshot = .ok a ∧ a.transition (cosign 2 [10]) = .ok t ∧
      t.node.documents = [.int 11] ∧ t.node.doneDocuments = [.int 11, .int 10, .int 10] ∧
      t.result.IsSound ∧
      a.Refuses (cosign 2 [11]) (.notActionable (.int 11) (.int 2) .complete) := by
  have loading : ∃ a t, Automaton.ofValue muddledSnapshot = .ok a ∧
      a.transition (cosign 2 [10]) = .ok t ∧ t.node.documents = [.int 11] ∧
      t.node.doneDocuments = [.int 11, .int 10, .int 10] ∧
      a.transition (cosign 2 [11]) = .error (.notActionable (.int 11) (.int 2) .complete) :=
    ⟨_, _, rfl, rfl, rfl, rfl, rfl⟩
  obtain ⟨a, t, loaded, accepted, opened, done, refused⟩ := loading
  obtain ⟨runs, _, acts, _⟩ := Automaton.made_stays_sound (.loaded loaded)
  refine ⟨a, t, loaded, accepted, opened, done, runs _ _ (Run.act Run.none accepted), ?_⟩
  exact ((acts (cosign 2 [11]) (by decide)).2 _).1 refused

/-- No node stands at a cursor of one half, and an actor cannot be named in a message whose number
is too long. -/
theorem half_cursor_refuses_otherwise :
    (∃ p e, Positioned.at? [cosignNode] (.float (.ofWord 0x3FE0000000000000)) = .ok p ∧
      p.transitionOn (.int 1) (.text "cosign") (.list [.int 10]) = .error e ∧
      ∀ s, e.failure ≠ .signing s) ∧
    ∃ e, mailing.automaton.Made ∧
      mailing.automaton.transition ⟨.int leastOverlong, .text "cosign", []⟩ = .error e ∧
      ∀ s, e.failure ≠ .signing s := by
  constructor
  · exact ⟨_, .misuse .notPlace, rfl, rfl, nofun⟩
  · have each : ∀ n ∈ [cosignNode, sendNode], n.Made := by
      have made : ∀ n : Node, n.quota.isNumber = true →
          (∀ d ∈ n.documents, d.isIdentifier = true) → n.Made :=
        fun n countable identifiers => .assembled countable (Node.assembled_iff.2 identifiers)
      exact List.forall_mem_cons.2 ⟨made _ (by decide) (by decide),
        List.forall_mem_singleton.2 (made _ (by decide) (by decide))⟩
    obtain ⟨e, refused, unsaid⟩ := overlong_actor_refused
    refine ⟨e, .assembled each (Automaton.at?_of_le (Nat.zero_le 2)), refused, ?_⟩
    intro s told
    cases unsaid.symm.trans told

end SignatureRouting
