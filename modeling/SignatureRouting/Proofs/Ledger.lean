import SignatureRouting.Proofs.Emission

/-!
The log of a workflow accounts for every document at every node. An open document has exactly the
logged actors as its progress and keeps its place among the open documents; a document is done when
as many actors are logged for it as the quota, and never more are.
-/
namespace SignatureRouting
open Value

section Ledger
variable {setting : Setting} {history : History} {steps : Option (List StepItem)}
  {documents : Option (List Value)} {w : Workflow}
  (built : Workflow.build setting history steps documents = .ok w)
  (integral : ∀ item ∈ steps.getD [], item.IsIntegral)
include built

theorem node_after_run {deeds : List Deed} {a : Automaton} (run : Run w.automaton deeds a) {k : Nat}
    {emitted : Node} (first : w.automaton.nodes[k]? = some emitted) :
    emitted.Fresh ∧ ∃ n, a.nodes[k]? = some n ∧
      Node.Follows emitted n (actorsOn (log deeds) k) := by
  have fresh := Workflow.fresh_of_build built
  exact ⟨fresh.at first, (run.follows fresh).node_of_start first⟩

include integral

theorem quota_integral : ∀ emitted ∈ w.automaton.nodes, emitted.quota.IsIntegral := by
  refine Workflow.integral_of_build built fun items given item listed => ?_
  rw [given] at integral
  exact integral item listed

theorem quota_between {emitted : Node} (member : emitted ∈ w.automaton.nodes) :
    ∃ q : Nat, (emitted.quota == .int q) = true ∧ 1 ≤ q ∧ q ≤ emitted.actors.length := by
  have fresh := Workflow.fresh_of_build built emitted member
  exact IsIntegral.exists_nat (quota_integral built integral emitted member) fresh.least fresh.most

theorem documents_follow_log {deeds : List Deed} {a : Automaton} (run : Run w.automaton deeds a)
    {k : Nat} {emitted : Node} (first : w.automaton.nodes[k]? = some emitted) :
    ∃ n, a.nodes[k]? = some n ∧
      n.opened = (emitted.documents.filter fun d => !n.doneDocuments.contains d).map
        (fun d => ⟨d, actorsOn (log deeds) k d⟩) ∧
      ∀ d ∈ emitted.documents,
        Distinct (actorsOn (log deeds) k d) ∧
        (∀ v ∈ actorsOn (log deeds) k d, emitted.actors.contains v = true) ∧
        (Value.int (actorsOn (log deeds) k d).length).le emitted.quota = true ∧
        (n.doneDocuments.contains d = true ↔
          (Value.int (actorsOn (log deeds) k d).length == emitted.quota) = true) := by
  obtain ⟨fresh, n, here, follows⟩ := node_after_run built run first
  obtain ⟨q, is_q, positive, _⟩ := quota_between built integral (List.mem_of_getElem? first)
  have progress := follows.progress
  have reached : ∀ count, emitted.quota.isReachedBy count = decide ((q : Int) ≤ count) :=
    isReachedBy_of_same_int is_q
  refine ⟨n, here, ?_, fun d member => ⟨progress.distinct d, progress.members d, ?_, ?_⟩⟩
  · rw [progress.opened]
    refine congrArg _ (List.filter_congr fun d member => ?_)
    rw [progress.contains_done, contains_of_mem member, Bool.true_and]
  · have short := progress.unfilled d
    rw [reached, decide_eq_false_iff_not] at short
    rw [le_congr_right is_q, int_le_int, decide_eq_true_eq]
    omega
  · have short := progress.unfilled d
    rw [reached, decide_eq_false_iff_not] at short
    rw [progress.contains_done, contains_of_mem member, Bool.true_and, reached, decide_eq_true_eq]
    have equal : (Value.int (actorsOn (log deeds) k d).length == emitted.quota) = true ↔
        ((actorsOn (log deeds) k d).length : Int) = q := by
      rw [← int_same_int]
      exact ⟨fun same => same_trans same is_q, fun same => same_trans same (same_symm is_q)⟩
    rw [equal]
    omega

end Ledger

/-! A workflow to look at: two of three actors sign three documents, and a fourth sends them. -/

def office : Setting where
  resolver := TagPolicy.builtIn.resolver
  participants := [("a", ⟨.int 1, [.text "sign"]⟩), ("b", ⟨.int 2, [.text "sign"]⟩),
    ("c", ⟨.int 3, [.text "sign"]⟩), ("d", ⟨.int 4, [.text "to"]⟩)]

def signThenSend : List StepItem :=
  [.step { process := .text "cosign", participants := some [.text "a", .text "b", .text "c"],
           signatureType := .int 1, cardinality := .authored (.int 2) },
   .step { process := .text "to", participants := some [.text "d"] }]

def cosignNode : Node where
  step := .int 0
  role := .signature
  tag := .text "cosign"
  actors := [.int 1, .int 2, .int 3]
  opened := [.fresh (.int 10), .fresh (.int 11), .fresh (.int 12)]
  quota := .int 2

def sendNode : Node where
  step := .int 1
  role := .expedition
  tag := .text "to"
  actors := [.int 4]
  opened := [.fresh (.int 10), .fresh (.int 11), .fresh (.int 12)]
  quota := .int 1

def mailing : Workflow :=
  ⟨[.int 1, .int 2, .int 3, .int 4], [.int 10, .int 11, .int 12], ⟨[cosignNode, sendNode], 0⟩⟩

theorem mailing_built :
    Workflow.build office .empty (some signThenSend) (some [.int 10, .int 11, .int 12]) =
      .ok mailing := by
  rfl

/-- Nobody whose number is too long may act, and no message can say so. -/
theorem overlong_actor_refused :
    ∃ e, mailing.automaton.transition ⟨.int leastOverlong, .text "cosign", []⟩ = .error e ∧
      e.failure = .overlong .written := by
  have refused : cosignNode.accept ⟨.int leastOverlong, .text "cosign", []⟩ =
      .error (.notEligible (.int leastOverlong)) :=
    (Node.accept_eq_error_iff (by decide) (by simp)).2
      (.notEligible (by decide) (by decide +kernel))
  have raises : (ActionError.notEligible (.int leastOverlong)).failure.RaisesIf
      ([Value.int leastOverlong].all isWritable) fun _ => True :=
    Failure.raisesIf_raised (.actorNotEligible _) trivial
  exact ⟨_, Automaton.transition_of_refused rfl refused,
    raises.overlong List.mem_cons_self isWithinLimit_leastOverlong⟩

theorem signThenSend_integral : ∀ item ∈ signThenSend, item.IsIntegral := by
  intro item member
  simp only [signThenSend, List.mem_cons, List.not_mem_nil, or_false] at member
  rcases member with rfl | rfl
  · intro c parsed
    obtain rfl := Option.some.inj (Except.ok.inj parsed)
    exact isIntegral_int 2
  · intro c parsed
    cases Except.ok.inj parsed

def cosign (actor : Int) (documents : List Int) : Action :=
  ⟨.int actor, .text "cosign", documents.map .int⟩

theorem documents_follow_log_after_two :
    ∃ deeds a n,
      mailing.automaton.play [cosign 1 [10, 12], cosign 2 [10, 11]] = .ok (deeds, a) ∧
      a.nodes[0]? = some n ∧ n.doneDocuments = [.int 10] ∧
      n.opened = [⟨.int 11, actorsOn (log deeds) 0 (.int 11)⟩,
        ⟨.int 12, actorsOn (log deeds) 0 (.int 12)⟩] := by
  have reached : ∃ deeds a n,
      mailing.automaton.play [cosign 1 [10, 12], cosign 2 [10, 11]] = .ok (deeds, a) ∧
      a.nodes[0]? = some n ∧ n.doneDocuments = [.int 10] := ⟨_, _, _, rfl, rfl, rfl⟩
  obtain ⟨deeds, a, n, played, here, done⟩ := reached
  refine ⟨deeds, a, n, played, here, done, ?_⟩
  obtain ⟨m, at_first, opened, _⟩ := documents_follow_log mailing_built signThenSend_integral
    (run_of_play played) (k := 0) rfl
  obtain rfl := Option.some.inj (here.symm.trans at_first)
  rw [opened, done]
  rfl

end SignatureRouting
