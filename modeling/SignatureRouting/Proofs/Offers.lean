import SignatureRouting.Proofs.Continuation
import SignatureRouting.Proofs.Frontier

/-!
What is listed as pending against what is accepted. Both are read off the current node in their own
way: the listing drops actors who have acted on a document, and the check of an action goes through
the obstacles of each document in turn. In a run they agree, because an open document is never done
or full and an actor who is left is never done. What is not accepted is refused as a conflict. An
actor that is an undefined float would stay listed once it is done, so actors have to be defined.
-/
namespace SignatureRouting
open Value

def Automaton.Offers (a : Automaton) (v d : Value) : Prop :=
  ∃ work, a.pendingWork? = some work ∧
    ∃ item ∈ work.items, (item.1 == d) = true ∧ item.2.contains v = true

namespace Node
variable {n : Node}

def Wants (n : Node) (v d : Value) : Prop :=
  ∃ o ∈ n.opened, (o.id == d) = true ∧ o.actors.contains v = false

theorem Wants.congr {v d e : Value} (wants : n.Wants v d) (same : (d == e) = true) :
    n.Wants v e := by
  obtain ⟨o, opened, here, unmet⟩ := wants
  exact ⟨o, opened, same_trans here same, unmet⟩

theorem exists_target_iff {v d : Value} :
    (∃ item ∈ n.targets, (item.1 == d) = true ∧ item.2.contains v = true) ↔
      n.actors.contains v = true ∧ n.Wants v d := by
  have left : ∀ o : OpenDocument, (n.actors.filter fun w => !o.actors.contains w).contains v =
      (n.actors.contains v && !o.actors.contains v) := by
    intro o
    apply contains_filter
    intro w _ same
    rw [contains_congr o.actors same]
  constructor
  · rintro ⟨item, member, same, listed⟩
    obtain ⟨o, opened, rfl⟩ := List.mem_map.1 (List.mem_filter.1 member).1
    simp only [left, Bool.and_eq_true, Bool.not_eq_true'] at listed
    exact ⟨listed.1, o, opened, same, listed.2⟩
  · rintro ⟨among, o, opened, same, unmet⟩
    have listed : (n.actors.filter fun w => !o.actors.contains w).contains v = true := by
      rw [left, among, unmet]
      rfl
    have somebody : (n.actors.filter fun w => !o.actors.contains w) ≠ [] := by
      obtain ⟨w, member, _⟩ := exists_same_of_contains listed
      exact List.ne_nil_of_mem member
    refine ⟨(o.id, n.actors.filter fun w => !o.actors.contains w), ?_, same, listed⟩
    apply List.mem_filter.2
    exact ⟨List.mem_map_of_mem opened, by simpa using somebody⟩

theorem accept_conflict {x : Action} {e : ActionError} (countable : n.quota.isNumber = true)
    (identifiers : ∀ d ∈ x.documents, d.isIdentifier = true) (refused : n.accept x = .error e) :
    e.failure.RaisesIf (e.shown.all isWritable) (·.category? = some .conflict) := by
  have refuses := (accept_eq_error_iff countable identifiers).1 refused
  cases refuses with
  | wrongTag _ => exact Failure.raisesIf_raised (.wrongTag _ _) rfl
  | notEligible _ _ => exact Failure.raisesIf_raised (.actorNotEligible _) rfl
  | notActionable _ _ _ _ _ => exact Failure.raisesIf_raised (.documentNotActionable _ _ _) rfl

/-- A refusal shows what was asked, and otherwise the tag of the node and texts. -/
theorem shown_of_accept {x : Action} {e : ActionError} (countable : n.quota.isNumber = true)
    (identifiers : ∀ d ∈ x.documents, d.isIdentifier = true) (refused : n.accept x = .error e)
    (tag : n.tag.isWritable = true) {v : Value} (member : v ∈ e.shown)
    (long : v.isWritable = false) : v = x.actor ∨ v = x.tag ∨ v ∈ x.documents := by
  have refuses := (accept_eq_error_iff countable identifiers).1 refused
  cases refuses with
  | wrongTag _ =>
    simp only [ActionError.shown, List.mem_cons, List.not_mem_nil, or_false] at member
    rcases member with rfl | rfl
    · exact Or.inr (Or.inl rfl)
    · cases tag.symm.trans long
  | notEligible _ _ => exact Or.inl (List.mem_singleton.1 member)
  | notActionable _ _ asked _ _ =>
    simp only [ActionError.shown, List.mem_cons, List.not_mem_nil, or_false] at member
    rcases member with rfl | rfl | rfl
    · have among : v ∈ unique x.documents := asked ▸ List.mem_append_right _ List.mem_cons_self
      exact Or.inr (Or.inr (mem_of_mem_unique among))
    · exact Or.inl rfl
    · cases long

section Follows
variable {start : Node} {acted : Value → List Value} (h : Follows start n acted)
include h

theorem Follows.unobstructed_iff (apart : Distinct start.documents) {v d : Value} :
    n.obstacle? v d = none ↔ n.Wants v d := by
  rw [h.obstacle?_eq_none_iff apart]
  constructor
  · rintro ⟨known, short, unmet⟩
    obtain ⟨e, listed, same⟩ := exists_same_of_contains known
    rw [h.progress.alike same] at short unmet
    exact ⟨_, h.progress.opened_of_short listed short, same_symm same, unmet⟩
  · rintro ⟨o, opened, same, unmet⟩
    obtain ⟨listed, actors, short⟩ := h.progress.mem_opened opened
    rw [actors] at unmet
    rw [h.progress.alike same] at short unmet
    exact ⟨(contains_congr _ (same_symm same)).trans (contains_of_mem listed), short, unmet⟩

theorem Follows.identifier_of_wants (fresh : start.Fresh) {v d : Value} (wants : n.Wants v d) :
    d.isIdentifier = true := by
  obtain ⟨o, opened, same, _⟩ := wants
  rw [← isIdentifier_congr same]
  exact fresh.identifiers _ (h.progress.mem_opened opened).1

theorem Follows.isEligible_iff (defined : ∀ v ∈ start.actors, v.isUndefined = false) {v : Value} :
    n.isEligible v = true ↔ n.actors.contains v = true := by
  constructor
  · intro eligible
    exact (h.roster.of_eligible eligible).1
  · intro among
    obtain ⟨w, member, same⟩ := exists_same_of_contains among
    have absent := h.roster.apart w member (defined w (h.roster.remaining.subset member))
    rw [isEligible, among, contains_congr _ same, absent]
    rfl

theorem Follows.exists_accepted_iff (fresh : start.Fresh)
    (defined : ∀ v ∈ start.actors, v.isUndefined = false) (x : Action) :
    (∃ requested, n.accept x = .ok requested) ↔ (x.tag == n.tag) = true ∧
      n.actors.contains x.actor = true ∧ ∀ d ∈ x.documents, n.Wants x.actor d := by
  have apart := fresh.documents_distinct
  have tagged : x.tag.equals n.tag = (x.tag == n.tag) := by
    obtain ⟨word, tag⟩ := fresh.tag
    apply equals_defined
    rw [h.tag, tag]
    rfl
  constructor
  · rintro ⟨requested, taken⟩
    obtain ⟨same, eligible, different, _, clear⟩ := accept_eq_ok_iff.1 taken
    obtain ⟨rfl, _⟩ := unique?_eq_some different
    refine ⟨tagged.symm.trans same, (h.isEligible_iff defined).1 eligible, ?_⟩
    intro d member
    have asked := contains_of_mem member
    rw [← contains_unique] at asked
    obtain ⟨e, listed, alike⟩ := exists_same_of_contains asked
    exact ((h.unobstructed_iff apart).1 (clear e listed)).congr (same_symm alike)
  · rintro ⟨same, among, wanted⟩
    refine ⟨unique x.documents, accept_eq_ok_iff.2 ⟨tagged.trans same,
      (h.isEligible_iff defined).2 among, ?_, ?_, ?_⟩⟩
    · rw [unique?, if_pos]
      apply List.all_eq_true.2
      intro d member
      exact h.identifier_of_wants fresh (wanted d member)
    · rw [isNumber_congr h.quota]
      exact fresh.countable
    · intro d listed
      have asked := contains_of_mem listed
      rw [contains_unique] at asked
      obtain ⟨e, member, alike⟩ := exists_same_of_contains asked
      apply (h.unobstructed_iff apart).2
      exact (wanted e member).congr (same_symm alike)

end Follows

end Node

theorem Automaton.exists_transition_iff {a : Automaton} {n : Node} {x : Action}
    (landed : a.nodes[a.landing]? = some n) :
    (∃ t, a.transition x = .ok t) ↔ ∃ requested, n.accept x = .ok requested := by
  constructor
  · rintro ⟨t, accepted⟩
    obtain ⟨m, requested, found, taken, _⟩ := transition_eq_ok_iff.1 accepted
    rw [landed, Option.some.injEq] at found
    subst found
    exact ⟨requested, taken⟩
  · rintro ⟨requested, taken⟩
    exact ⟨_, transition_eq_ok_iff.2 ⟨n, requested, landed, taken, rfl⟩⟩

theorem Automaton.offers_iff {a : Automaton} {n : Node} (here : a.nodes[a.index]? = some n)
    {v d : Value} : a.Offers v d ↔ n.actors.contains v = true ∧ n.Wants v d := by
  rw [← Node.exists_target_iff]
  constructor
  · rintro ⟨work, pending, offered⟩
    rw [pendingWork?, current?, here] at pending
    simp only [Option.ite_none_left_eq_some, Option.some.injEq] at pending
    obtain ⟨_, rfl⟩ := pending
    exact offered
  · rintro ⟨item, member, offered⟩
    have listed : n.targets ≠ [] := List.ne_nil_of_mem member
    exact ⟨_, pendingWork?_eq_some listed here, item, member, offered⟩

theorem accepted_iff_offered {setting : Setting} {history : History}
    {steps : Option (List StepItem)} {documents : Option (List Value)} {w : Workflow}
    (built : Workflow.build setting history steps documents = .ok w)
    (defined : ∀ p ∈ setting.participants, p.2.actor.isUndefined = false) {deeds : List Deed}
    {a : Automaton} (run : Run w.automaton deeds a) {n : Node} (here : a.nodes[a.index]? = some n)
    (unfinished : n.isFinished = false) (x : Action) :
    ((∃ t, a.transition x = .ok t) ↔ (x.tag == n.tag) = true ∧
      n.actors.contains x.actor = true ∧ ∀ d ∈ x.documents, a.Offers x.actor d) ∧
    ((∀ d ∈ x.documents, d.isIdentifier = true) → ∀ e, a.transition x = .error e →
      ((∀ v ∈ e.shown, v.isWritable = true) →
        ∃ s, e.failure = .signing s ∧ s.category? = some .conflict) ∧
      ∀ v ∈ e.shown, v.isWritable = false → v = x.actor ∨ v = x.tag ∨ v ∈ x.documents) := by
  have fresh := Workflow.fresh_of_build built
  obtain ⟨s, emitted, follows⟩ := (run.follows fresh).start_of_node here
  have accepts := follows.exists_accepted_iff (fresh.at emitted)
    (actors_defined built defined emitted) x
  have landed := Automaton.landing_of_unfinished here unfinished
  have current : a.nodes[a.landing]? = some n := by rw [landed, here]
  constructor
  · rw [Automaton.exists_transition_iff current, accepts]
    simp only [Automaton.offers_iff here]
    constructor
    · rintro ⟨tag, among, wanted⟩
      exact ⟨tag, among, fun d member => ⟨among, wanted d member⟩⟩
    · rintro ⟨tag, among, offered⟩
      exact ⟨tag, among, fun d member => (offered d member).2⟩
  · intro identifiers e refused
    have countable : n.quota.isNumber = true := by
      rw [isNumber_congr follows.quota]
      exact (fresh.at emitted).countable
    cases taken : n.accept x with
    | ok requested =>
      rw [Automaton.transition_eq_ok_iff.2 ⟨n, requested, current, taken, rfl⟩] at refused
      contradiction
    | error e' =>
      rw [Automaton.transition_of_refused current taken, Except.error.injEq] at refused
      subst refused
      have tag : n.tag.isWritable = true := by
        obtain ⟨word, same⟩ := (fresh.at emitted).tag
        rw [follows.tag, same]
        rfl
      exact ⟨(Node.accept_conflict countable identifiers taken).signing,
        fun v => Node.shown_of_accept countable identifiers taken tag⟩

/-- The third actor may act on both documents that are left, repeated or not, and on no other. -/
theorem accepted_iff_offered_after_two :
    ∃ deeds a, mailing.automaton.play [cosign 1 [10, 12], cosign 2 [10, 11]] = .ok (deeds, a) ∧
      (∃ t, a.transition (cosign 3 [12, 11, 12]) = .ok t) ∧
      ∃ e, a.transition (cosign 3 [11, 10]) = .error e ∧
        ∃ s, e.failure = .signing s ∧ s.category? = some .conflict := by
  have reached : ∃ deeds a n work,
      mailing.automaton.play [cosign 1 [10, 12], cosign 2 [10, 11]] = .ok (deeds, a) ∧
      a.nodes[a.index]? = some n ∧ n.isFinished = false ∧ n.tag = .text "cosign" ∧
      n.actors = [.int 3] ∧ a.pendingWork? = some work ∧
      work.items = [(.int 11, [.int 3]), (.int 12, [.int 3])] ∧
      a.transition (cosign 3 [11, 10]) =
        .error (.notActionable (.int 10) (.int 3) .complete) :=
    ⟨_, _, _, _, rfl, rfl, rfl, rfl, rfl, rfl, rfl, rfl⟩
  obtain ⟨deeds, a, n, work, played, here, unfinished, tag, actors, pending, items, refused⟩ :=
    reached
  have defined : ∀ p ∈ office.participants, p.2.actor.isUndefined = false := by decide
  have agree := accepted_iff_offered mailing_built defined (run_of_play played) here unfinished
  have offered : ∀ d ∈ [Value.int 12, .int 11, .int 12], a.Offers (.int 3) d := by
    intro d member
    refine ⟨work, pending, (d, [.int 3]), ?_, same_refl d, rfl⟩
    rw [items]
    simp only [List.mem_cons, List.not_mem_nil, or_false] at member ⊢
    rcases member with rfl | rfl | rfl <;> simp
  refine ⟨deeds, a, played, ?_, _, refused, ?_⟩
  · apply (agree (cosign 3 [12, 11, 12])).1.2
    rw [tag, actors]
    exact ⟨rfl, rfl, offered⟩
  · exact ((agree (cosign 3 [11, 10])).2 (by decide) _ refused).1 (by decide)

/-- A list cannot name a document, and an actor cannot be named in a message whose number is too
long. -/
theorem refused_without_conflict :
    Workflow.build office .empty (some signThenSend) (some [.int 10, .int 11, .int 12]) =
      .ok mailing ∧ mailing.automaton.current? = some cosignNode ∧ cosignNode.isFinished = false ∧
    (∃ e, mailing.automaton.transition ⟨.int 1, .text "cosign", [.list [.int 10]]⟩ = .error e ∧
      ¬ ∃ s, e.failure = .signing s ∧ s.category? = some .conflict) ∧
    ∃ e, mailing.automaton.transition ⟨.int leastOverlong, .text "cosign", []⟩ = .error e ∧
      ¬ ∃ s, e.failure = .signing s ∧ s.category? = some .conflict := by
  obtain ⟨e, refused, unsaid⟩ := overlong_actor_refused
  refine ⟨mailing_built, rfl, rfl, ⟨_, rfl, ?_⟩, e, refused, ?_⟩
  · rintro ⟨s, told, _⟩
    cases told
  · rintro ⟨s, told, _⟩
    cases unsaid.symm.trans told

end SignatureRouting
