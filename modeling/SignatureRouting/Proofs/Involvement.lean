import SignatureRouting.Automaton
import SignatureRouting.Proofs.Frontier
import SignatureRouting.Proofs.Requests

/-!
Who is involved in a workflow. At a node these are the actors who may still act and those who are
done, and an accepted action does no more than move one of them from the first to the second. So
those for whom the steps were planned stay involved, nobody joins them, and the parts of a split
have all of them between them.
-/
namespace SignatureRouting
open Value

namespace Value

theorem SameMembers.append {l l' m m' : List Value} (left : SameMembers l l')
    (right : SameMembers m m') : SameMembers (l ++ m) (l' ++ m') := by
  intro v
  rw [contains_append, contains_append, left v, right v]

theorem sameMembers_unique (l : List Value) : SameMembers (unique l) l := contains_unique l

theorem unique_flatten_map_unique (ls : List (List Value)) :
    unique (ls.map unique).flatten = unique ls.flatten := by
  induction ls with
  | nil => rfl
  | cons l rest ih =>
    calc unique ((l :: rest).map unique).flatten
      _ = unique (unique l ++ (rest.map unique).flatten) := by simp
      _ = unique (l ++ unique (rest.map unique).flatten) := by
        rw [unique_unique_append, unique_append_unique]
      _ = unique (l :: rest).flatten := by simp [ih, unique_append_unique]

end Value

namespace Node

def everyone (n : Node) : List Value := n.actors ++ n.doneActors

theorem involved_of_identifiers {n : Node} (identifiers : ∀ v ∈ n.everyone, v.isIdentifier = true) :
    n.involved = .ok (unique n.everyone) := by
  have all := List.all_eq_true.2 identifiers
  unfold everyone at all ⊢
  simp [involved, unique?, all]

theorem everyone_record {n : Node} {actor : Value} (eligible : n.isEligible actor = true)
    (requested : List Value) : SameMembers (n.record actor requested).everyone n.everyone := by
  intro v
  have listed : n.actors.contains actor = true := (Bool.and_eq_true _ _ ▸ eligible).1
  have alike : ∀ w ∈ n.actors, (v == w) = true → (!w.equals actor) = !v.equals actor := by
    intro w _ same
    rw [equals, equals, isUndefined_congr same, Bool.eq_iff_iff.2
      ⟨same_trans same, same_trans (same_symm same)⟩]
  unfold everyone record
  dsimp only
  split
  · rw [contains_append, contains_append, contains_append, contains_filter _ alike,
      contains_singleton]
    -- Whoever leaves the first list enters the second. An undefined actor enters it without leaving.
    by_cases same : (v == actor) = true
    · simp [same, contains_congr _ same, listed]
    · simp [equals, same]
  · rfl

end Node

namespace Automaton

def everyone (a : Automaton) : List Value := a.nodes.flatMap Node.everyone

theorem involved_of_identifiers {a : Automaton}
    (identifiers : ∀ v ∈ a.everyone, v.isIdentifier = true) :
    a.involved = .ok (unique a.everyone) := by
  have each : a.nodes.mapM Node.involved = .ok (a.nodes.map fun n => unique n.everyone) := by
    rw [mapM_eq_ok, List.forall₂_map_right_iff, List.forall₂_same]
    intro n member
    apply Node.involved_of_identifiers
    intro v among
    exact identifiers v (List.mem_flatMap.2 ⟨n, member, among⟩)
  have joined := unique_flatten_map_unique (a.nodes.map Node.everyone)
  rw [List.map_map] at joined
  rw [involved, each, everyone, List.flatMap]
  exact congrArg Except.ok joined

theorem everyone_set {nodes : List Node} {k : Nat} {n m : Node} (here : nodes[k]? = some n)
    (same : SameMembers m.everyone n.everyone) :
    SameMembers ((nodes.set k m).flatMap Node.everyone) (nodes.flatMap Node.everyone) := by
  induction nodes generalizing k with
  | nil => simp at here
  | cons first rest ih =>
    cases k with
    | zero =>
      obtain rfl := Option.some.inj here
      exact same.append fun _ => rfl
    | succ k => exact SameMembers.append (fun _ => rfl) (ih here)

theorem everyone_transition {a : Automaton} {x : Action} {t : Transition}
    (accepted : a.transition x = .ok t) : SameMembers t.result.everyone a.everyone := by
  obtain ⟨n, here, became, eligible, _⟩ := of_transition accepted
  rw [everyone, everyone, (result_of_transition accepted).1]
  apply everyone_set here
  rw [became]
  exact Node.everyone_record eligible t.requested

theorem everyone_split {a : Automaton} {s : Split} (split : a.split? = some s) :
    s.previous.everyone ++ s.next.everyone = a.everyone := by
  rw [everyone, everyone, everyone, ← split_nodes split, List.flatMap_append]

end Automaton

theorem Run.everyone {start a : Automaton} {deeds : List Deed} (run : Run start deeds a) :
    SameMembers a.everyone start.everyone := by
  induction run with
  | none => exact fun _ => rfl
  | act _ accepted ih =>
    intro v
    rw [Automaton.everyone_transition accepted v, ih v]

namespace Setting

theorem identifiers_of_plan {setting : Setting} {place : Nat} {item : StepItem} {plan : StepPlan}
    (ok : setting.plan place item = .ok plan) : ∀ v ∈ plan.actors, v.isIdentifier = true := by
  cases item with
  | other value => contradiction
  | step step =>
    obtain ⟨role, actors, quota, _, _, listed, _, rfl⟩ := planStep_eq_ok ok
    unfold Setting.actors at listed
    split at listed
    · contradiction
    · contradiction
    · obtain ⟨found, _, ok⟩ := bind_eq_ok.1 listed
      split at ok
      · rename_i identifiers
        obtain rfl := Except.ok.inj ok
        exact List.all_eq_true.1 identifiers
      · contradiction

end Setting

namespace Draft

structure Accounts (draft : Draft) : Prop where
  identifiers : ∀ v ∈ draft.nodes.flatMap Node.everyone, v.isIdentifier = true
  actors : draft.actors = unique (draft.nodes.flatMap Node.everyone)

theorem everyone_of_specs (specs : List NodeSpec) :
    (specs.map NodeSpec.node).flatMap Node.everyone = specs.flatMap (·.actors) := by
  rw [List.flatMap_map]
  apply List.flatMap_congr
  intro spec _
  exact List.append_nil spec.actors

theorem addStep_accounts {setting : Setting} {documents : List Value}
    (good : GoodDocuments documents) {place : Nat} {item : StepItem} {before after : Draft} (accounts : before.Accounts)
    (ok : before.addStep setting documents place item = .ok after) : after.Accounts := by
  obtain ⟨plan, history, specs, planned, _, emitted, rfl⟩ := addStep_eq_ok ok
  obtain ⟨role, _, emits⟩ :=
    StepPlan.emits_of_specs (Setting.plan_sound planned).1 good emitted
  have added : (specs.map NodeSpec.node).flatMap Node.everyone = plan.actors := by
    rw [everyone_of_specs, emits.actors]
  constructor
  case identifiers =>
    intro v among
    rw [List.flatMap_append, added] at among
    rcases List.mem_append.1 among with old | new
    · exact accounts.identifiers v old
    · exact Setting.identifiers_of_plan planned v new
  case actors => rw [List.flatMap_append, added, accounts.actors, unique_unique_append]

end Draft

section Built
variable {setting : Setting} {history : History} {steps : Option (List StepItem)}
  {documents : Option (List Value)} {w : Workflow}
  (built : Workflow.build setting history steps documents = .ok w)
include built

theorem everyone_of_build :
    (∀ v ∈ w.automaton.everyone, v.isIdentifier = true) ∧
      w.actors = unique w.automaton.everyone := by
  obtain ⟨ids, items, draft, _, good, _, _, added, rfl⟩ := Workflow.build_eq_ok built
  have accounts : draft.Accounts := by
    apply Draft.addSteps_keeps (P := Draft.Accounts) _ _ added
    · intro place item before after _ accounts ok
      exact Draft.addStep_accounts good accounts ok
    · constructor <;> simp [Draft.start, unique]
  exact ⟨accounts.identifiers, accounts.actors⟩

/-- A workflow lists those who are involved in its automaton, in their order. They stay involved in
every run, each of them once, and wherever a run is split its parts involve them between them. -/
theorem involved_conserved :
    w.automaton.involved = .ok w.actors ∧ Distinct w.actors ∧
      ∀ deeds a, Run w.automaton deeds a →
        (∃ involved, a.involved = .ok involved ∧ Distinct involved ∧
          SameMembers involved w.actors) ∧
        ∀ s, a.split? = some s → ∃ first second, s.previous.involved = .ok first ∧
          s.next.involved = .ok second ∧ SameMembers (first ++ second) w.actors := by
  obtain ⟨identifiers, listed⟩ := everyone_of_build built
  refine ⟨?_, ?_, fun deeds a run => ⟨?_, fun s split => ?_⟩⟩
  · rw [Automaton.involved_of_identifiers identifiers, listed]
  · rw [listed]
    exact distinct_unique _
  · have same := run.everyone
    refine ⟨_, Automaton.involved_of_identifiers (same.symm.isIdentifier identifiers),
      distinct_unique _, fun v => ?_⟩
    rw [contains_unique, same v, listed, contains_unique]
  · have same := run.everyone
    have known := same.symm.isIdentifier identifiers
    have parts := Automaton.everyone_split split
    rw [← parts, List.forall_mem_append] at known
    refine ⟨_, _, Automaton.involved_of_identifiers known.1,
      Automaton.involved_of_identifiers known.2, fun v => ?_⟩
    rw [(sameMembers_unique _).append (sameMembers_unique _) v, parts, same v, listed,
      contains_unique]

end Built

/-- The signers are listed in the order in which they were done, and the sender in the part of his
own. -/
theorem involved_conserved_while_mailing :
    ∃ deeds a s first,
      mailing.automaton.play [cosign 2 [10, 11], cosign 1 [10, 12], cosign 3 [11, 12]] =
        .ok (deeds, a) ∧ a.split? = some s ∧
      mailing.automaton.involved = .ok [.int 1, .int 2, .int 3, .int 4] ∧
      a.involved = .ok [.int 2, .int 1, .int 3, .int 4] ∧
      SameMembers [.int 2, .int 1, .int 3, .int 4] mailing.actors ∧
      s.previous.involved = .ok first ∧ s.next.involved = .ok [.int 4] ∧
      SameMembers (first ++ [.int 4]) mailing.actors := by
  have signed : ∃ deeds a s, mailing.automaton.play [cosign 2 [10, 11], cosign 1 [10, 12],
      cosign 3 [11, 12]] = .ok (deeds, a) ∧ a.split? = some s ∧
      a.involved = .ok [.int 2, .int 1, .int 3, .int 4] ∧ s.next.involved = .ok [.int 4] :=
    ⟨_, _, _, rfl, rfl, rfl, rfl⟩
  obtain ⟨deeds, a, s, played, split, done, rest⟩ := signed
  obtain ⟨listed, _, conserved⟩ := involved_conserved mailing_built
  obtain ⟨⟨involved, now, _, same⟩, parts⟩ := conserved deeds a (run_of_play played)
  obtain ⟨first, second, before, after, both⟩ := parts s split
  obtain rfl := Except.ok.inj (done.symm.trans now)
  obtain rfl := Except.ok.inj (rest.symm.trans after)
  exact ⟨deeds, a, s, first, played, split, listed, now, same, before, after, both⟩

end SignatureRouting
