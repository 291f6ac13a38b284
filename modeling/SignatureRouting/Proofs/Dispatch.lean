import SignatureRouting.Proofs.Ledger
import SignatureRouting.Proofs.Passing

/-!
What is sent has been signed, or has been left behind. A build refuses an expedition before the first
signature, but it only looks at what the steps ask for. All actors of a signature node can be done
with a document left that nobody has signed, and the document can then be sent. This happens to no
document in any run exactly if no expedition can be come to through signature nodes that each have
fewer actors than documents.
-/
namespace SignatureRouting
open Value

def IsSigned (history : History) (deeds : List Deed) (d : Value) : Prop :=
  (history.tally d).signers ≠ [] ∨
    ∃ e ∈ log deeds, e.role = .signature ∧ (e.document == d) = true

def SendsOnlySigned (history : History) (start : Automaton) : Prop :=
  ∀ deeds a, Run start deeds a → ∀ x t, a.transition x = .ok t → t.node.role = .expedition →
    ∀ d, t.requested.contains d = true → IsSigned history deeds d

/-- Before a node there is one that is never passed, or one that has too many actors for all of them
to be done without some document. -/
def IsGuarded (w : Workflow) (k : Nat) : Prop :=
  ∃ j < k, ∃ n, w.automaton.nodes[j]? = some n ∧
    ((∀ count, n.quota.isReachedBy count = false) ∨
      n.role = .signature ∧ w.documents.length ≤ n.actors.length)

theorem IsSigned.congr {history : History} {deeds : List Deed} {d e : Value}
    (signed : IsSigned history deeds d) (same : (d == e) = true) : IsSigned history deeds e := by
  rcases signed with before | ⟨f, member, role, document⟩
  · rw [history.tally_congr same] at before
    exact Or.inl before
  · exact Or.inr ⟨f, member, role, same_trans document same⟩

namespace Draft

/-- An expedition comes after a signature unless all documents were signed before. -/
def SignedFirst (start : History) (documents : List Value) (draft : Draft) : Prop :=
  ∀ (k : Nat) (s : Node), draft.nodes[k]? = some s → s.role = .expedition →
    ∀ d ∈ documents, (start.tally d).signers = [] →
      ∃ j < k, ∃ m, draft.nodes[j]? = some m ∧ m.role = .signature

theorem addStep_signedFirst {setting : Setting} {documents : List Value}
    (good : GoodDocuments documents) {start : History} {place : Nat} {item : StepItem}
    {before after : Draft} (sound : before.Sound start documents)
    (ordered : before.SignedFirst start documents)
    (ok : before.addStep setting documents place item = .ok after) :
    after.SignedFirst start documents := by
  obtain ⟨plan, recorded, specs, planned, carried, emitted, rfl⟩ := addStep_eq_ok ok
  obtain ⟨plan_sound, _, _⟩ := Setting.plan_sound planned
  obtain ⟨role, planned_role, emits⟩ := StepPlan.emits_of_specs plan_sound good emitted
  intro k s here sends d member unsigned
  dsimp only at here ⊢
  by_cases old : k < before.nodes.length
  · rw [List.getElem?_append_left old] at here
    obtain ⟨j, earlier, m, found, signs⟩ := ordered k s here sends d member unsigned
    exact ⟨j, earlier, m, by rw [List.getElem?_append_left (by omega), found], signs⟩
  · have new := here
    rw [List.getElem?_append_right (by omega)] at new
    obtain ⟨spec, among, rfl⟩ := List.mem_map.1 (List.mem_of_getElem? new)
    obtain rfl : role = .expedition := (emits.roles spec among).symm.trans sends
    rw [planned_role] at carried
    have state := History.checkState_of_carryOut carried d member
    simp only [StepRole.recorded, History.checkState] at state
    split at state
    · contradiction
    · rename_i signers
      rw [Bool.not_eq_true, List.isEmpty_eq_false_iff] at signers
      obtain ⟨v, signer⟩ := List.exists_mem_of_ne_nil _ signers
      rcases (sound.records d v .signature).1 (contains_of_mem signer) with from_start | planned
      · rw [History.Records, Tally.actors, unsigned] at from_start
        contradiction
      · obtain ⟨_, m, found, signs, _⟩ := planned
        obtain ⟨j, inside, rfl⟩ := List.mem_iff_getElem.1 found
        exact ⟨j, by omega, _, by
          rw [List.getElem?_append_left inside, List.getElem?_eq_getElem inside], signs⟩

end Draft

section Built
variable {setting : Setting} {history : History} {steps : Option (List StepItem)}
  {documents : Option (List Value)} {w : Workflow}
  (built : Workflow.build setting history steps documents = .ok w)
include built

theorem signature_before_expedition {k : Nat} {s : Node} (emitted : w.automaton.nodes[k]? = some s)
    (sends : s.role = .expedition) {d : Value} (member : d ∈ w.documents)
    (unsigned : (history.tally d).signers = []) :
    ∃ j < k, ∃ m, w.automaton.nodes[j]? = some m ∧ m.role = .signature := by
  obtain ⟨ids, items, draft, _, good, _, _, added, rfl⟩ := Workflow.build_eq_ok built
  have kept := Draft.addSteps_keeps
    (P := fun draft => draft.Sound history ids ∧ draft.SignedFirst history ids)
    (fun _ both ok => ⟨Draft.addStep_sound good both.1 ok,
      Draft.addStep_signedFirst good both.1 both.2 ok⟩)
    ⟨Draft.start_sound history ids, by simp [Draft.SignedFirst, Draft.start]⟩ added
  exact kept.2 k s emitted sends d member unsigned

section Sent
variable {deeds : List Deed} {a : Automaton} (run : Run w.automaton deeds a) {d : Value}
  (unsigned : ¬ IsSigned history deeds d)
include run unsigned

theorem expedition_of_unsigned {x : Action} {t : Transition} (accepted : a.transition x = .ok t)
    (sends : t.node.role = .expedition) (asked : t.requested.contains d = true) :
    w.documents.contains d = true ∧ ∃ s e, w.automaton.nodes[t.landing]? = some s ∧
      s.role = .expedition ∧ e ∈ w.documents ∧ (history.tally e).signers = [] := by
  obtain ⟨s, emitted, role, _, known⟩ := run.landed (Workflow.fresh_of_build built) accepted asked
  rw [(Workflow.start_of_build built).2 s (List.mem_of_getElem? emitted)] at known
  obtain ⟨e, member, same⟩ := exists_same_of_contains known
  refine ⟨known, s, e, emitted, role.symm.trans sends, member, ?_⟩
  by_contra before
  exact unsigned (IsSigned.congr (Or.inl before) (same_symm same))

theorem strands_of_unsigned (known : w.documents.contains d = true) {k : Nat}
    (before : k < a.landing) {s : Node} (emitted : w.automaton.nodes[k]? = some s)
    (signs : s.role = .signature) :
    ∃ n, a.nodes[k]? = some n ∧ n.Strands d ∧ s.actors.length < w.documents.length := by
  obtain ⟨first, shared⟩ := Workflow.start_of_build built
  have fresh := Workflow.fresh_of_build built
  rw [← shared s (List.mem_of_getElem? emitted)] at known ⊢
  rcases run.event_or_strands fresh first before emitted known with signed | stranded
  · obtain ⟨e, member, rfl, same⟩ := signed
    obtain ⟨s', emitted', role, _⟩ := run.event fresh member
    obtain rfl := Option.some.inj (emitted.symm.trans emitted')
    exact absurd (Or.inr ⟨e, member, role.trans signs, same⟩) unsigned
  · exact stranded

end Sent

theorem exists_unsigned_run {k : Nat} {s : Node} (emitted : w.automaton.nodes[k]? = some s)
    (sends : s.role = .expedition) {d : Value} (member : d ∈ w.documents)
    (unsigned : (history.tally d).signers = [])
    (passable : ∀ j < k, ∀ n, w.automaton.nodes[j]? = some n → (∃ q, n.quota.Needs q) ∧
      (n.role = .signature → n.actors.length < w.documents.length)) :
    ∃ deeds a, Run w.automaton deeds a ∧ a.landing = k ∧ a.nodes[k]? = some s ∧
      ¬ IsSigned history deeds d := by
  obtain ⟨first, shared⟩ := Workflow.start_of_build built
  have fresh := Workflow.fresh_of_build built
  obtain ⟨deeds, a, run, landed, here, behind⟩ := exists_run_leaving fresh first emitted (d := d)
    (P := fun _ n => n.role = .signature) fun j before n at_j => by
      rw [shared n (List.mem_of_getElem? at_j)]
      exact ⟨(passable j before n at_j).1,
        fun signs => ⟨(passable j before n at_j).2 signs, contains_of_mem member⟩⟩
  refine ⟨deeds, a, run, landed, here, ?_⟩
  rintro (before | ⟨e, logged, role, same⟩)
  · exact before unsigned
  · obtain ⟨n, at_e, is_role, _⟩ := run.event fresh logged
    have signs : n.role = .signature := is_role.symm.trans role
    have reached : e.node ≤ k := landed ▸ Nat.le_trans (run.event_node_le logged) a.index_le_landing
    rcases Nat.lt_or_eq_of_le reached with earlier | rfl
    · obtain ⟨m, found, strands⟩ := behind e.node earlier n at_e signs
      exact run.not_strands_of_event fresh logged same found strands
    · obtain rfl := Option.some.inj (emitted.symm.trans at_e)
      rw [sends] at signs
      contradiction

theorem sends_only_signed_of_guarded
    (guarded : ∀ (k : Nat) (s : Node), w.automaton.nodes[k]? = some s → s.role = .expedition →
      ∀ d ∈ w.documents, (history.tally d).signers = [] → IsGuarded w k) :
    SendsOnlySigned history w.automaton := by
  intro deeds a run x t accepted sends d asked
  by_contra unsigned
  obtain ⟨known, s, e, emitted, sender, member, nobody⟩ :=
    expedition_of_unsigned built run unsigned accepted sends asked
  obtain ⟨j, before, n, at_j, cause⟩ := guarded _ s emitted sender e member nobody
  rw [Automaton.landing_of_transition accepted] at before
  rcases cause with never | ⟨signs, many⟩
  · have fresh := Workflow.fresh_of_build built
    have stuck := run.landing_le_of_never fresh (Workflow.start_of_build built).1 at_j never
    omega
  · obtain ⟨_, _, _, few⟩ := strands_of_unsigned built run unsigned known before at_j signs
    omega

theorem guarded_of_sends_only_signed (lawful : SendsOnlySigned history w.automaton) {k : Nat}
    {s : Node} (emitted : w.automaton.nodes[k]? = some s) (sends : s.role = .expedition) {d : Value}
    (member : d ∈ w.documents) (unsigned : (history.tally d).signers = []) : IsGuarded w k := by
  by_contra unguarded
  have fresh := Workflow.fresh_of_build built
  obtain ⟨deeds, a, run, landed, here, never_signed⟩ := exists_unsigned_run built emitted sends
    member unsigned fun j before n at_j => by
      have own := fresh.at at_j
      constructor
      · exact own.needs_iff.2 fun never =>
          unguarded ⟨j, before, n, at_j, Or.inl never⟩
      · intro signs
        by_contra many
        exact unguarded ⟨j, before, n, at_j, Or.inr ⟨signs, Nat.not_lt.1 many⟩⟩
  have own := fresh.at emitted
  obtain ⟨v, among⟩ := List.exists_mem_of_length_pos own.somebody
  obtain ⟨t, accepted, _, role, asked⟩ := exists_accepted own (landed ▸ here) among
    (by rwa [(Workflow.start_of_build built).2 s (List.mem_of_getElem? emitted)])
  refine never_signed (lawful deeds a run _ t accepted (role.trans sends) d ?_)
  rw [asked]
  exact contains_of_mem (List.mem_singleton_self d)

theorem sent_is_signed_or_stranded :
    (∀ deeds a, Run w.automaton deeds a → ∀ x t, a.transition x = .ok t →
      t.node.role = .expedition → ∀ d, t.requested.contains d = true →
        IsSigned history deeds d ∨
          (∃ k < t.landing, ∃ s : Node, w.automaton.nodes[k]? = some s ∧ s.role = .signature) ∧
          ∀ k < t.landing, ∀ s : Node, w.automaton.nodes[k]? = some s → s.role = .signature →
            ∃ n : Node, a.nodes[k]? = some n ∧ n.Strands d) ∧
    (SendsOnlySigned history w.automaton ↔
      ∀ (k : Nat) (s : Node), w.automaton.nodes[k]? = some s → s.role = .expedition →
        ∀ d ∈ w.documents, (history.tally d).signers = [] → IsGuarded w k) := by
  refine ⟨fun deeds a run x t accepted sends d asked => ?_,
    fun lawful k s emitted sends d member unsigned =>
      guarded_of_sends_only_signed built lawful emitted sends member unsigned,
    sends_only_signed_of_guarded built⟩
  by_cases signed : IsSigned history deeds d
  · exact Or.inl signed
  obtain ⟨known, s, e, emitted, sender, member, nobody⟩ :=
    expedition_of_unsigned built run signed accepted sends asked
  refine Or.inr ⟨signature_before_expedition built emitted sender member nobody,
    fun k before m at_k signs => ?_⟩
  rw [Automaton.landing_of_transition accepted] at before
  obtain ⟨n, here, strands, _⟩ := strands_of_unsigned built run signed known before at_k signs
  exact ⟨n, here, strands⟩

end Built

theorem mailing_sends_only_signed : SendsOnlySigned .empty mailing.automaton := by
  refine (sent_is_signed_or_stranded mailing_built).2.2 fun k s emitted sends d _ _ => ?_
  match k, emitted with
  | 0, emitted =>
    obtain rfl := Option.some.inj emitted
    contradiction
  | k + 1, _ => exact ⟨0, Nat.succ_pos k, cosignNode, rfl, Or.inr ⟨rfl, by decide⟩⟩

def soleSignature : List StepItem :=
  [.step { process := .text "cosign", participants := some [.text "a"], signatureType := .int 1 },
   .step { process := .text "to", participants := some [.text "d"] }]

/-- One signature makes the only signer done, and the other document is sent without one. -/
theorem unsigned_document_sent :
    ∃ w deeds a t,
      Workflow.build office .empty (some soleSignature) (some [.int 10, .int 11]) = .ok w ∧
      w.automaton.play [cosign 1 [10]] = .ok (deeds, a) ∧
      a.transition ⟨.int 4, .text "to", [.int 11]⟩ = .ok t ∧ t.node.role = .expedition ∧
      t.requested.contains (.int 11) = true ∧ ¬ IsSigned .empty deeds (.int 11) := by
  refine ⟨_, _, _, _, rfl, rfl, rfl, rfl, contains_of_mem (List.mem_singleton_self (Value.int 11)),
    ?_⟩
  rintro (before | ⟨e, member, _, same⟩)
  · exact before rfl
  · have only : e = ⟨0, .signature, .int 1, .int 10⟩ := List.mem_singleton.1 member
    rw [only] at same
    contradiction

end SignatureRouting
