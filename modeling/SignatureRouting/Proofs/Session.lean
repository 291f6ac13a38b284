import SignatureRouting.Proofs.Ledger

/-!
Sessions: workflows built one after the other, each in a history where everything accepted before is
recorded. Nobody acts on a document in one role twice in a session, and nobody repeats what the
history of a workflow has. Within a node the progress of a document rules it out; between nodes of
one role, that they share no actor; and between workflows, that a step is refused if an actor of it
is recorded already.
-/
namespace SignatureRouting
open Value

namespace Event

def Repeats (e f : Event) : Prop :=
  (e.actor == f.actor) = true ∧ (e.document == f.document) = true ∧ e.role = f.role

theorem Repeats.symm {e f : Event} (repeats : e.Repeats f) : f.Repeats e :=
  ⟨same_symm repeats.1, same_symm repeats.2.1, repeats.2.2.symm⟩

def record (e : Event) : Record := ⟨e.document, e.actor, e.role⟩

end Event

namespace History

def Has (h : History) (e : Event) : Prop := h.Records e.document e.actor e.role

theorem Has.congr {h : History} {e f : Event} (has : h.Has e) (repeats : e.Repeats f) :
    h.Has f := by
  obtain ⟨actors, documents, roles⟩ := repeats
  rw [Has, ← roles]
  exact (h.records_congr documents actors e.role).1 has

theorem has_of_mem {events : List Event} {e : Event} (member : e ∈ events) :
    (ofRecords (events.map Event.record)).Has e :=
  (records_ofRecords ..).2
    ⟨e.record, List.mem_map_of_mem member, same_refl _, same_refl _, rfl⟩

end History

structure Episode where
  history : History
  deeds : List Deed

def sessionLog (episodes : List Episode) : List Event := episodes.flatMap fun e => log e.deeds

/-- Workflows of one session, in order. Each history may have more than it has to. -/
inductive Session : List Episode → Prop where
  | start : Session []
  | workflow {past : List Episode} {setting : Setting} {history : History}
      {steps : Option (List StepItem)} {documents : Option (List Value)} {w : Workflow}
      {deeds : List Deed} {a : Automaton} (before : Session past)
      (recorded : ∀ e ∈ sessionLog past, history.Has e)
      (built : Workflow.build setting history steps documents = .ok w)
      (run : Run w.automaton deeds a) : Session (past ++ [⟨history, deeds⟩])

theorem pairwise_of_distinct {events : List Event}
    (distinct : ∀ e ∈ events, Distinct (actorsOn events e.node e.document)) :
    events.Pairwise fun e f => e.node = f.node → (e.document == f.document) = true →
      (e.actor == f.actor) = false := by
  induction events with
  | nil => exact List.Pairwise.nil
  | cons e rest ih =>
    rw [List.forall_mem_cons] at distinct
    refine List.Pairwise.cons (fun f later here documents => ?_) (ih fun f later => ?_)
    · have both : actorsOn (e :: rest) e.node e.document =
          e.actor :: actorsOn rest e.node e.document := by
        simp [actorsOn]
      have among := mem_actorsOn later here.symm (same_symm documents)
      have absent := distinct.1
      rw [both, distinct_cons] at absent
      rw [← Bool.not_eq_true]
      intro same
      rw [contains_congr _ same, contains_of_mem among] at absent
      exact absurd absent.1 (by decide)
    · exact (distinct.2 f later).sublist
        (List.Sublist.map _ (List.Sublist.filter _ (List.sublist_cons_self e rest)))

section Built
variable {setting : Setting} {history : History} {steps : Option (List StepItem)}
  {documents : Option (List Value)} {w : Workflow}
  (built : Workflow.build setting history steps documents = .ok w)
include built

theorem nodes_apart {i j : Nat} {m n : Node} (at_i : w.automaton.nodes[i]? = some m)
    (at_j : w.automaton.nodes[j]? = some n) (differ : i ≠ j) (same_role : m.role = n.role)
    {v : Value} (listed : m.actors.contains v = true) : n.actors.contains v = false := by
  obtain ⟨draft, same, _, sound⟩ := Workflow.draft_of_build built
  rw [same] at at_i at_j
  obtain ⟨inside_i, rfl⟩ := List.getElem?_eq_some_iff.1 at_i
  obtain ⟨inside_j, rfl⟩ := List.getElem?_eq_some_iff.1 at_j
  have apart := List.pairwise_iff_getElem.1 sound.apart
  rcases Nat.lt_or_gt_of_ne differ with before | after
  · exact apart i j inside_i inside_j before same_role v listed
  · rw [← Bool.not_eq_true]
    intro again
    have absent := apart j i inside_j inside_i after same_role.symm v again
    rw [listed] at absent
    contradiction

theorem new_to_history {deeds : List Deed} {a : Automaton} (run : Run w.automaton deeds a)
    {e : Event} (member : e ∈ log deeds) : ¬ history.Has e := by
  obtain ⟨draft, same, _, sound⟩ := Workflow.draft_of_build built
  obtain ⟨s, emitted, role, actor, document⟩ := run.event (Workflow.fresh_of_build built) member
  rw [same] at emitted
  have listed := List.mem_of_getElem? emitted
  rw [sound.shared s listed] at document
  have absent := sound.unrecorded s listed e.document document e.actor actor
  rwa [← role] at absent

theorem log_without_repeats {deeds : List Deed} {a : Automaton} (run : Run w.automaton deeds a) :
    (log deeds).Pairwise fun e f => ¬ e.Repeats f := by
  have fresh := Workflow.fresh_of_build built
  have distinct : ∀ e ∈ log deeds, Distinct (actorsOn (log deeds) e.node e.document) := by
    intro e member
    obtain ⟨s, emitted, _⟩ := run.event fresh member
    obtain ⟨n, _, follows⟩ := (run.follows fresh).node_of_start emitted
    exact follows.progress.distinct e.document
  refine (pairwise_of_distinct distinct).imp_of_mem fun {e f} first second within => ?_
  rintro ⟨actors, documents, roles⟩
  by_cases here : e.node = f.node
  · rw [within here documents] at actors
    contradiction
  · obtain ⟨m, at_e, role_e, actor_e, _⟩ := run.event fresh first
    obtain ⟨n, at_f, role_f, actor_f, _⟩ := run.event fresh second
    have absent := nodes_apart built at_e at_f here (role_e.symm.trans (roles.trans role_f)) actor_e
    rw [contains_congr _ actors, actor_f] at absent
    contradiction

end Built

theorem nothing_accepted_twice {episodes : List Episode} (session : Session episodes) :
    (sessionLog episodes).Pairwise (fun e f => ¬ e.Repeats f) ∧
      ∀ episode ∈ episodes, ∀ e ∈ log episode.deeds, ¬ episode.history.Has e := by
  induction session with
  | start => exact ⟨List.Pairwise.nil, by simp⟩
  | @workflow past setting history steps documents w deeds a before recorded built run ih =>
    have last : sessionLog (past ++ [⟨history, deeds⟩]) = sessionLog past ++ log deeds := by
      simp [sessionLog]
    constructor
    · rw [last, List.pairwise_append]
      refine ⟨ih.1, log_without_repeats built run, fun e old f new repeats => ?_⟩
      exact new_to_history built run new ((recorded e old).congr repeats)
    · intro episode listed e member
      rcases List.mem_append.1 listed with earlier | latest
      · exact ih.2 episode earlier e member
      · obtain rfl := List.mem_singleton.1 latest
        exact new_to_history built run member

def thirdSignature : List StepItem :=
  [.step { process := .text "cosign", participants := some [.text "c"], signatureType := .int 1 }]

theorem nothing_accepted_twice_by_three :
    ∃ episodes, Session episodes ∧ episodes.length = 2 ∧ (sessionLog episodes).length = 6 ∧
      (sessionLog episodes).Pairwise fun e f => ¬ e.Repeats f := by
  have played : ∃ deeds a w later b,
      mailing.automaton.play [cosign 1 [10, 12], cosign 2 [10, 11]] = .ok (deeds, a) ∧
        Workflow.build office (.ofRecords ((log deeds).map Event.record)) (some thirdSignature)
          (some [.int 10, .int 11]) = .ok w ∧
        w.automaton.play [cosign 3 [10, 11]] = .ok (later, b) ∧
        (log deeds).length = 4 ∧ (log later).length = 2 := ⟨_, _, _, _, _, rfl, rfl, rfl, rfl, rfl⟩
  obtain ⟨deeds, a, w, later, b, first, built, second, four, two⟩ := played
  have opening := Session.workflow Session.start (by simp [sessionLog]) mailing_built
    (run_of_play first)
  have alone : sessionLog ([] ++ [⟨.empty, deeds⟩]) = log deeds := by simp [sessionLog]
  have recorded : ∀ e ∈ sessionLog ([] ++ [⟨.empty, deeds⟩]),
      (History.ofRecords ((log deeds).map Event.record)).Has e := by
    rw [alone]
    exact fun e member => History.has_of_mem member
  have session := Session.workflow opening recorded built (run_of_play second)
  refine ⟨_, session, rfl, ?_, (nothing_accepted_twice session).1⟩
  simp [sessionLog, four, two]

end SignatureRouting
