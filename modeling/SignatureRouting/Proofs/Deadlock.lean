import SignatureRouting.Proofs.Passing

/-!
Which workflows can be blocked. A run of a built workflow can come to an exhausted node exactly if
some node has a quota that is never reached, or if its quota is at least two and below the number of
documents and there are fewer actors than documents and quota together would ask for. Nodes before
such a one can always be gone through, by as many actors as the quota each acting on all documents.
-/
namespace SignatureRouting
open Value

namespace Node

section Fresh
variable {start : Node} (fresh : start.Fresh)
include fresh

theorem exists_exhausted_of_never (never : ∀ count, start.quota.isReachedBy count = false) :
    ∃ n, Worked start n ∧ n.isFinished = false ∧ n.IsExhausted := by
  obtain ⟨acted, done, n, played, everywhere, _⟩ := exists_played_by fresh
    (List.Sublist.refl start.documents) fresh.something fresh.actors_distinct
    (fun v member => contains_of_mem member) (fun k _ => never k)
  have nobody : ∀ v, done.contains v = false := by
    intro v
    rw [← Bool.not_eq_true]
    intro found
    obtain ⟨w, member, _⟩ := exists_same_of_contains found
    rw [← played.done] at member
    have reached := played.follows.roster.earned w member
    rw [never] at reached
    contradiction
  obtain ⟨d, listed⟩ := List.exists_mem_of_ne_nil _ fresh.something
  refine ⟨n, played.worked, played.unfinished (mem_pending.2 ⟨listed, never _⟩)
    (contains_of_mem (List.getElem_mem fresh.somebody)) (nobody _), ?_⟩
  refine played.isExhausted fun e wanted v known _ => ?_
  rw [everywhere, if_pos (contains_of_mem (mem_pending.1 wanted).1)]
  exact known

/-- All but one document are shared out among actors who retire by it and completed by the others,
one fewer than the quota, who then act on the last document. -/
theorem exists_shared_out {q : Nat} (needs : start.quota.Needs q) (several : 2 ≤ q)
    {ds : List Value} {last : Value} (all : start.documents = ds ++ [last])
    {owners crowd : List Value} (everyone : start.actors = owners ++ crowd)
    (size : crowd.length + 1 = q) (some : 0 < owners.length)
    (fewer : owners.length ≤ ds.length) (fits : q ≤ ds.length) :
    ∃ acted n, Played start acted owners n ∧ (∀ d ∈ ds, (acted d).length = q) ∧
      acted last = crowd := by
  have distinct := fresh.documents_distinct
  have actors := fresh.actors_distinct
  rw [all] at distinct
  rw [everyone] at actors
  have once : Distinct ds := distinct.sublist (List.sublist_append_left ..)
  have crowd_once : Distinct crowd := actors.sublist (List.sublist_append_right ..)
  have last_outside : ds.contains last = false := distinct.apart (List.mem_singleton_self last)
  have crowd_outside : ∀ u ∈ crowd, owners.contains u = false := fun u member => actors.apart member
  have crowd_known : ∀ u ∈ crowd, start.actors.contains u = true := by
    intro u member
    rw [everyone]
    exact contains_of_mem (List.mem_append_right _ member)
  have owners_known : ∀ v ∈ owners, start.actors.contains v = true := by
    intro v member
    rw [everyone]
    exact contains_of_mem (List.mem_append_left _ member)
  have listed : ∀ d ∈ ds, d ∈ start.documents := by
    intro d member
    rw [all]
    exact List.mem_append_left _ member
  have last_listed : last ∈ start.documents := by
    rw [all]
    exact List.mem_append_right _ (List.mem_singleton_self last)
  -- The owners take their shares, and retire by it.
  obtain ⟨n₁, shared⟩ := exists_played_windows fresh needs (by omega)
    (actors.sublist (List.sublist_append_left ..)) owners_known
    (all ▸ List.sublist_append_left ..) some fewer fits
  -- The crowd completes one document after the other, so that nobody of it ever stands on two.
  obtain ⟨acted₂, n₂, completed, lengths, kept⟩ := shared.fill_all fresh needs size several
    crowd_once (fun u member => ⟨crowd_known u member, crowd_outside u member⟩) once listed
    (fun u member e _ => not_contains_of_sublist (takersOf_sublist owners ds q e)
      (crowd_outside u member))
    (fun d member => takersOf_between fewer some (by omega) (contains_of_mem member))
  -- The last document is left, and the crowd is too small for it.
  have last_open : acted₂ last = [] :=
    (kept last last_outside).trans (takersOf_outside last_outside)
  have only_last : ∀ e ∈ pending start acted₂, e = last := by
    intro e wanted
    obtain ⟨among, short⟩ := mem_pending.1 wanted
    rw [all, List.mem_append, List.mem_singleton] at among
    refine among.resolve_left fun member => ?_
    rw [lengths e member] at short
    exact Nat.lt_irrefl q (needs.lt_of_unreached short)
  obtain ⟨acted₃, n₃, crowded, shape⟩ := completed.fill fresh last_listed crowd_once
    (fun u member => ⟨crowd_known u member, crowd_outside u member, fun e wanted => by
      rw [only_last e wanted, last_open]
      rfl⟩)
    (fun k short => by
      rw [last_open, List.length_nil, Nat.zero_add]
      exact needs.unreached (by omega))
    (needs.unreached several)
  refine ⟨acted₃, n₃, crowded, fun d member => ?_, ?_⟩
  · rw [shape, differs_of_mem last_outside member]
    exact lengths d member
  · rw [shape, if_pos (same_refl last), last_open, List.nil_append]

theorem exists_exhausted_of_few {q : Nat} (needs : start.quota.Needs q) (several : 2 ≤ q)
    (fewer : q < start.documents.length)
    (few : start.actors.length + 2 ≤ start.documents.length + q) :
    ∃ n, Worked start n ∧ n.isFinished = false ∧ n.IsExhausted := by
  obtain ⟨_, fits⟩ := needs.between fresh.least fresh.most
  obtain ⟨ds, last, all⟩ : ∃ ds last, start.documents = ds ++ [last] :=
    ⟨_, _, (List.dropLast_append_getLast fresh.something).symm⟩
  obtain ⟨owners, crowd, everyone, size⟩ :
      ∃ owners crowd, start.actors = owners ++ crowd ∧ crowd.length + 1 = q :=
    ⟨_, _, (List.take_append_drop (start.actors.length + 1 - q) start.actors).symm, by
      rw [List.length_drop]
      omega⟩
  have actors := congrArg List.length everyone
  have documents := congrArg List.length all
  rw [List.length_append] at actors documents
  rw [List.length_singleton] at documents
  obtain ⟨acted, n, played, lengths, crowded⟩ := exists_shared_out fresh needs several all everyone
    size (by omega) (by omega) (by omega)
  have wanted : last ∈ pending start acted := by
    refine mem_pending.2 ⟨all ▸ List.mem_append_right _ (List.mem_singleton_self last), ?_⟩
    rw [crowded]
    exact needs.unreached (by omega)
  obtain ⟨u, member⟩ := List.exists_mem_of_length_pos (l := crowd) (by omega)
  have distinct := fresh.actors_distinct
  rw [everyone] at distinct
  refine ⟨n, played.worked, played.unfinished wanted (v := u) ?_ (distinct.apart member), ?_⟩
  · rw [everyone]
    exact contains_of_mem (List.mem_append_right _ member)
  · refine played.isExhausted fun d open_still v known active => ?_
    obtain ⟨among, short⟩ := mem_pending.1 open_still
    rw [all, List.mem_append, List.mem_singleton] at among
    rcases among with complete | rfl
    · rw [lengths d complete] at short
      exact absurd (needs.lt_of_unreached short) (Nat.lt_irrefl q)
    · rw [everyone, contains_append, active, Bool.false_or] at known
      rw [crowded]
      exact known

theorem exists_exhausted (can : start.CanBlock) :
    ∃ n, Worked start n ∧ n.isFinished = false ∧ n.IsExhausted := by
  rcases can with never | ⟨q, needs, several, fewer, few⟩
  · exact exists_exhausted_of_never fresh never
  · exact exists_exhausted_of_few fresh needs several fewer few

end Fresh

end Node

theorem exists_blocked_run {start : Automaton} (fresh : AllFresh start) (first : start.index = 0)
    {n : Node} (member : n ∈ start.nodes) (can : n.CanBlock) :
    ∃ deeds a, Run start deeds a ∧ a.IsBlocked := by
  obtain ⟨k, s, emitted, blocks, earlier⟩ := exists_first_place member can
  obtain ⟨deeds, a, run, landed, here, _⟩ := exists_run_completing fresh first emitted
    fun i before m at_i => (fresh.at at_i).needs_iff.2 fun never =>
      earlier i before m at_i (Or.inl never)
  obtain ⟨m, worked, unfinished, exhausted⟩ := Node.exists_exhausted (fresh.at emitted) blocks
  rw [← landed] at here
  obtain ⟨more, b, later, nodes, _, stays⟩ := exists_run_of_worked here worked
  have whole := run.append later
  refine ⟨_, b, whole, (isBlocked_iff fresh whole).2 ⟨m, ?_, exhausted⟩⟩
  rw [stays unfinished, nodes]
  exact List.getElem?_set_self (List.getElem?_eq_some_iff.1 here).1

/-- A built workflow is never blocked exactly if none of its nodes can be. -/
theorem never_blocked_iff {setting : Setting} {history : History} {steps : Option (List StepItem)}
    {documents : Option (List Value)} {w : Workflow}
    (built : Workflow.build setting history steps documents = .ok w) :
    (∀ deeds a, Run w.automaton deeds a → a.IsTerminated ∨ a.IsActionable) ↔
      ∀ n ∈ w.automaton.nodes, ¬ n.CanBlock := by
  have fresh := Workflow.fresh_of_build built
  constructor
  · intro free n member can
    obtain ⟨draft, same, _⟩ := Workflow.draft_of_build built
    obtain ⟨deeds, a, run, blocked⟩ := exists_blocked_run fresh (by rw [same]) member can
    rcases free deeds a run with ended | idle
    · exact blocked.1 ended
    · exact blocked.2 idle
  · intro none deeds a run
    by_contra stuck
    rw [not_or] at stuck
    obtain ⟨n, here, exhausted⟩ := (isBlocked_iff fresh run).1 stuck
    obtain ⟨s, emitted, follows⟩ := (run.follows fresh).start_of_node here
    exact none s (List.mem_of_getElem? emitted) (follows.canBlock_of_isExhausted
      (fresh.at emitted) (Automaton.unfinished_at_landing here) exhausted)

theorem cosignNode_canBlock : cosignNode.CanBlock := by
  exact Or.inr ⟨2, needs_of_same_int rfl, by decide, by decide, by decide⟩

theorem mailing_may_be_blocked :
    ¬ ∀ deeds a, Run mailing.automaton deeds a → a.IsTerminated ∨ a.IsActionable := by
  intro free
  exact (never_blocked_iff mailing_built).1 free cosignNode List.mem_cons_self cosignNode_canBlock

/-- The third actor has acted on the only document that is left, and is still waited for. -/
theorem cosigning_blocked_by_three :
    ∃ w deeds a, Workflow.build office .empty (some (signThenSend.take 1))
        (some [.int 10, .int 11, .int 12]) = .ok w ∧
      w.automaton.play [cosign 1 [11, 12], cosign 2 [11, 12], cosign 3 [10]] = .ok (deeds, a) ∧
      ¬ a.IsTerminated ∧ ¬ a.IsActionable := by
  have reached : ∃ w deeds a n, Workflow.build office .empty (some (signThenSend.take 1))
        (some [.int 10, .int 11, .int 12]) = .ok w ∧
      w.automaton.play [cosign 1 [11, 12], cosign 2 [11, 12], cosign 3 [10]] = .ok (deeds, a) ∧
      a.nodes[a.landing]? = some n ∧ n.actors = [.int 3] ∧ n.opened = [⟨.int 10, [.int 3]⟩] :=
    ⟨_, _, _, _, rfl, rfl, rfl, rfl, rfl⟩
  obtain ⟨w, deeds, a, n, built, played, here, actors, opened⟩ := reached
  refine ⟨w, deeds, a, built, played, (isBlocked_iff (Workflow.fresh_of_build built)
    (run_of_play played)).2 ⟨n, here, fun v eligible o member => ?_⟩⟩
  rw [opened, List.mem_singleton] at member
  rw [Node.isEligible, actors, Bool.and_eq_true] at eligible
  rw [member]
  exact eligible.1

end SignatureRouting
