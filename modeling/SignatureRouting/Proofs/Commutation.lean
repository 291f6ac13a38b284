import SignatureRouting.Proofs.Retirement
import SignatureRouting.Proofs.RoundTrip

/-!
Two actions of different actors on different documents at one node, in either order. If one order is
accepted so is the other, and what becomes of the documents is the same. Who is done is the same
exactly if neither actor delays the other, that is, makes it forget documents by completing them
first. In all runs of a built workflow the order is irrelevant exactly if no node that can be come
to can forget.
-/
namespace SignatureRouting
open Value

namespace Node

structure SameDocuments (m n : Node) : Prop where
  step : m.step = n.step
  role : m.role = n.role
  tag : m.tag = n.tag
  quota : m.quota = n.quota
  opened : m.opened = n.opened
  documents_done : m.doneDocuments.Perm n.doneDocuments

structure Reorders (m n : Node) : Prop extends SameDocuments m n where
  actors : m.actors = n.actors
  actors_done : m.doneActors.Perm n.doneActors

theorem Reorders.refl (n : Node) : n.Reorders n :=
  ⟨⟨rfl, rfl, rfl, rfl, rfl, List.Perm.refl _⟩, rfl, List.Perm.refl _⟩

theorem actedAfter_comm (acted : Value → List Value) (u v : Value) {ds es : List Value}
    (apart : Apart ds es) :
    actedAfter (actedAfter acted v es) u ds = actedAfter (actedAfter acted u ds) v es := by
  funext d
  cases asked : es.contains d with
  | false =>
    rw [actedAfter_of_unasked asked, actedAfter, actedAfter_of_unasked asked, actedAfter]
  | true =>
    have outside := apart_iff.1 apart d asked
    rw [actedAfter_of_unasked outside, actedAfter_of_asked asked, actedAfter_of_asked asked,
      actedAfter_of_unasked outside]

/-- An actor is done by an action exactly if it is done by it after an action of another. -/
def SameRetiring (start : Node) (acted : Value → List Value) (u : Value) (ds : List Value)
    (v : Value) (es : List Value) : Prop :=
  start.quota.isReachedBy (start.standing acted (actedAfter acted v es) v) =
    start.quota.isReachedBy (start.standing (actedAfter acted u ds)
      (actedAfter (actedAfter acted u ds) v es) v)

theorem Follows.sameRetiring_iff {start n : Node} {acted : Value → List Value}
    (h : Follows start n acted) {u v : Value} (differ : (v == u) = false) (ds es : List Value) :
    SameRetiring start acted u ds v es ↔ ¬ n.Delays u ds v es := by
  have fewer : start.standing (actedAfter acted u ds)
      (actedAfter (actedAfter acted u ds) v es) v ≤
        start.standing acted (actedAfter acted v es) v := standing_actedAfter_le differ ds es
  rw [h.delays_iff differ, SameRetiring]
  cases alone : start.quota.isReachedBy (start.standing acted (actedAfter acted v es) v) with
  | false => simp [not_reached_of_le alone fewer]
  | true => simp

section Both
variable {start n : Node} {acted : Value → List Value} (h : Follows start n acted)
  (fresh : start.Fresh) {x y : Action} {ds es : List Value} (both : n.AcceptsBoth x y ds es)
include h fresh both

theorem Follows.accept_second : n.accept y = .ok es := by
  have apart := fresh.documents_distinct
  obtain ⟨tag, eligible, different, number, clear⟩ := accept_eq_ok_iff.1 both.second
  refine accept_eq_ok_iff.2 ⟨tag, h.eligible_before apart eligible, different, number, ?_⟩
  intro e member
  have free := ((h.of_accept fresh both.first).obstacle?_eq_none_iff apart).1 (clear e member)
  rw [actedAfter_of_unasked (both.apart e member)] at free
  exact (h.obstacle?_eq_none_iff apart).2 free

theorem Follows.acceptsBoth_swapped : n.AcceptsBoth y x es ds := by
  have apart := fresh.documents_distinct
  have second := h.accept_second fresh both
  have follows := h.of_accept fresh second
  obtain ⟨tag, eligible, different, number, clear⟩ := accept_eq_ok_iff.1 both.first
  have differ : (x.actor == y.actor) = false := (same_comm ..).trans both.differ
  have outside := both.apart.symm
  refine ⟨differ, both.second_some, both.first_some, outside, second, ?_⟩
  refine accept_eq_ok_iff.2 ⟨tag, ?_, different, number, ?_⟩
  · obtain ⟨_, known, active⟩ := h.roster.of_eligible eligible
    rw [follows.roster.isEligible_eq, h.contains_done_record apart, known, active, differ]
    rfl
  · intro d member
    have free := (h.obstacle?_eq_none_iff apart).1 (clear d member)
    have unchanged : actedAfter acted y.actor es d = acted d :=
      actedAfter_of_unasked (outside d member)
    rw [← unchanged] at free
    exact (follows.obstacle?_eq_none_iff apart).2 free

theorem Follows.after_both : Follows start ((n.record x.actor ds).record y.actor es)
    (actedAfter (actedAfter acted x.actor ds) y.actor es) :=
  (h.of_accept fresh both.first).of_accept fresh both.second

theorem Follows.sameDocuments_swapped :
    ((n.record y.actor es).record x.actor ds).SameDocuments
      ((n.record x.actor ds).record y.actor es) := by
  have here := (h.after_both fresh both).progress
  have there := (h.after_both fresh (h.acceptsBoth_swapped fresh both)).progress
  rw [actedAfter_comm acted x.actor y.actor both.apart] at there
  exact ⟨rfl, rfl, rfl, rfl, there.opened.trans here.opened.symm,
    there.done.trans here.done.symm⟩

theorem Follows.contains_done_both (v : Value) :
    ((n.record x.actor ds).record y.actor es).doneActors.contains v =
      (n.doneActors.contains v ||
        (v == x.actor && start.quota.isReachedBy
          (start.standing acted (actedAfter acted x.actor ds) x.actor)) ||
        (v == y.actor && start.quota.isReachedBy
          (start.standing (actedAfter acted x.actor ds)
            (actedAfter (actedAfter acted x.actor ds) y.actor es) y.actor))) := by
  have apart := fresh.documents_distinct
  rw [(h.of_accept fresh both.first).contains_done_record apart, h.contains_done_record apart]

theorem Follows.reorders_of_sameRetiring (one : SameRetiring start acted x.actor ds y.actor es)
    (other : SameRetiring start acted y.actor es x.actor ds) :
    ((n.record y.actor es).record x.actor ds).Reorders
      ((n.record x.actor ds).record y.actor es) := by
  have apart := fresh.documents_distinct
  have here := h.of_accept fresh both.first
  have there := h.of_accept fresh (h.accept_second fresh both)
  have before := h.progress.documents_distinct apart
  refine ⟨h.sameDocuments_swapped fresh both, ?_, ?_⟩
  · rw [record_actors (here.progress.documents_distinct apart), here.retires_eq,
      record_actors (there.progress.documents_distinct apart), there.retires_eq, ← one, ← other,
      record_actors before, record_actors before, h.retires_eq, h.retires_eq]
    split <;> split
    · exact List.filter_comm ..
    all_goals rfl
  · rw [record_doneActors (here.progress.documents_distinct apart), here.retires_eq,
      record_doneActors (there.progress.documents_distinct apart), there.retires_eq, ← one, ← other,
      record_doneActors before, record_doneActors before, h.retires_eq, h.retires_eq]
    split <;> split
    · rw [List.append_assoc, List.append_assoc]
      exact List.perm_append_comm.append_left n.doneActors
    all_goals exact List.Perm.refl _

theorem Follows.reorders_iff :
    ((n.record y.actor es).record x.actor ds).Reorders ((n.record x.actor ds).record y.actor es) ↔
      ¬ n.Delays x.actor ds y.actor es ∧ ¬ n.Delays y.actor es x.actor ds := by
  have swapped := h.acceptsBoth_swapped fresh both
  rw [← h.sameRetiring_iff both.differ, ← h.sameRetiring_iff swapped.differ]
  constructor
  · intro reorders
    obtain ⟨_, eligible, _⟩ := accept_eq_ok_iff.1 both.first
    obtain ⟨_, other, _⟩ := accept_eq_ok_iff.1 swapped.first
    have first := contains_perm reorders.actors_done x.actor
    have second := contains_perm reorders.actors_done y.actor
    rw [h.contains_done_both fresh both, h.contains_done_both fresh swapped] at first second
    rw [(h.roster.of_eligible eligible).2.2, swapped.differ, same_refl] at first
    rw [(h.roster.of_eligible other).2.2, both.differ, same_refl] at second
    simp only [Bool.false_and, Bool.true_and, Bool.or_false, Bool.false_or] at first second
    exact ⟨second, first.symm⟩
  · intro alike
    exact h.reorders_of_sameRetiring fresh both alike.1 alike.2

end Both

end Node

namespace Automaton

structure AcceptsBoth (a : Automaton) (x y : Action) (t t' : Transition) : Prop where
  differ : (y.actor == x.actor) = false
  first_some : x.documents ≠ []
  second_some : y.documents ≠ []
  apart : Apart x.documents y.documents
  first : a.transition x = .ok t
  second : t.result.transition y = .ok t'
  together : t'.landing = t.landing

structure Reorders (a b : Automaton) : Prop where
  index : a.index = b.index
  nodes : List.Forall₂ Node.Reorders a.nodes b.nodes

theorem Reorders.done {a b : Automaton} (reorders : a.Reorders b) :
    List.Forall₂ List.Perm (a.nodes.map Node.doneActors) (b.nodes.map Node.doneActors) := by
  rw [List.forall₂_map_left_iff, List.forall₂_map_right_iff]
  exact reorders.nodes.imp fun _ _ nodes => nodes.actors_done

theorem advance_index_eq (a : Automaton) {m n : Node} (opened : m.opened = n.opened) :
    (a.advance m).index = (a.advance n).index := by
  rw [advance, advance, opened]

theorem reorders_advance_iff {a : Automaton} (inside : a.landing < a.nodes.length) {m n : Node} :
    (a.advance m).Reorders (a.advance n) ↔ m.Reorders n := by
  constructor
  · intro reorders
    have each := (List.forall₂_iff_get.1 reorders.nodes).2 a.landing
    simpa [advance, inside] using each
  · intro reorders
    refine ⟨a.advance_index_eq reorders.opened, ?_⟩
    exact forall₂_set (List.forall₂_same.2 fun n _ => Node.Reorders.refl n) reorders a.landing

theorem AcceptsBoth.node {a : Automaton} {x y : Action} {t t' : Transition}
    (both : a.AcceptsBoth x y t t') : ∃ n, a.nodes[a.landing]? = some n ∧
      n.AcceptsBoth x y t.requested t'.requested := by
  obtain ⟨n, ds, here, taken, rfl⟩ := transition_eq_ok_iff.1 both.first
  obtain ⟨m, es, there, taken', rfl⟩ := transition_eq_ok_iff.1 both.second
  have together : (a.advance (n.record x.actor ds)).landing = a.landing := both.together
  obtain ⟨_, _, different, _⟩ := Node.accept_eq_ok_iff.1 taken
  obtain ⟨_, _, different', _⟩ := Node.accept_eq_ok_iff.1 taken'
  have inside := (List.getElem?_eq_some_iff.1 here).1
  have recorded : (a.advance (n.record x.actor ds)).nodes[a.landing]? =
    some (n.record x.actor ds) := List.getElem?_set_self inside
  rw [together, recorded, Option.some.injEq] at there
  rw [← there] at taken'
  refine ⟨n, here, both.differ, ?_, ?_, ?_, taken, taken'⟩
  · exact mt (eq_nil_iff_of_unique? different).1 both.first_some
  · exact mt (eq_nil_iff_of_unique? different').1 both.second_some
  · exact (apart_iff_of_unique? different different').2 both.apart

theorem acceptsBoth_of_node {a : Automaton} {n : Node} (here : a.nodes[a.landing]? = some n)
    {x y : Action} {ds es : List Value} (both : n.AcceptsBoth x y ds es) :
    ∃ t t', a.AcceptsBoth x y t t' ∧ t.requested = ds ∧ t'.requested = es ∧
      t'.result = a.advance ((n.record x.actor ds).record y.actor es) := by
  obtain ⟨t, t', taken, taken', landed, landed', asked, asked', became, result⟩ :=
    transitions_of_acceptsBoth here both
  obtain ⟨_, _, different, _⟩ := Node.accept_eq_ok_iff.1 both.first
  obtain ⟨_, _, different', _⟩ := Node.accept_eq_ok_iff.1 both.second
  refine ⟨t, t', ⟨both.differ, ?_, ?_, ?_, taken, taken', landed'.trans landed.symm⟩, asked,
    asked', result.trans (by rw [became])⟩
  · exact mt (eq_nil_iff_of_unique? different).2 both.first_some
  · exact mt (eq_nil_iff_of_unique? different').2 both.second_some
  · exact (apart_iff_of_unique? different different').1 both.apart

theorem AcceptsBoth.unique {a : Automaton} {x y : Action} {t t' r r' : Transition}
    (both : a.AcceptsBoth x y t t') (again : a.AcceptsBoth x y r r') : r = t ∧ r' = t' := by
  obtain rfl := Except.ok.inj (again.first.symm.trans both.first)
  exact ⟨rfl, Except.ok.inj (again.second.symm.trans both.second)⟩

end Automaton

section Run
variable {start a : Automaton} (fresh : AllFresh start) {deeds : List Deed}
  (run : Run start deeds a) {x y : Action} {t t' : Transition} (both : a.AcceptsBoth x y t t')
include fresh run both

/-- Both actions are accepted in the other order, and with the same outcome for the documents. The
outcome for the actors is the same exactly if neither actor delays the other. -/
theorem Run.swapped : ∃ n r r', a.nodes[a.landing]? = some n ∧ a.AcceptsBoth y x r r' ∧
    r'.result.index = t'.result.index ∧
    List.Forall₂ Node.SameDocuments r'.result.nodes t'.result.nodes ∧
    (r'.result.Reorders t'.result ↔ ¬ n.Delays x.actor t.requested y.actor t'.requested ∧
      ¬ n.Delays y.actor t'.requested x.actor t.requested) := by
  obtain ⟨n, here, at_node⟩ := both.node
  obtain ⟨s, emitted, follows⟩ := (run.follows fresh).start_of_node here
  have own := fresh.at emitted
  have inside := (List.getElem?_eq_some_iff.1 here).1
  obtain ⟨u, u', again, _, _, result⟩ := Automaton.acceptsBoth_of_node here at_node
  obtain ⟨rfl, rfl⟩ := both.unique again
  obtain ⟨r, r', swapped, _, _, result'⟩ :=
    Automaton.acceptsBoth_of_node here (follows.acceptsBoth_swapped own at_node)
  have documents := follows.sameDocuments_swapped own at_node
  refine ⟨n, r, r', here, swapped, ?_⟩
  rw [result, result', Automaton.reorders_advance_iff inside, follows.reorders_iff own at_node]
  refine ⟨a.advance_index_eq documents.opened, ?_, Iff.rfl⟩
  exact forall₂_set (List.forall₂_same.2 fun m _ => (Node.Reorders.refl m).toSameDocuments)
    documents a.landing

end Run

def Automaton.Commutes (start : Automaton) : Prop :=
  ∀ deeds a, Run start deeds a → ∀ x y t t', a.AcceptsBoth x y t t' →
    ∃ r r', a.AcceptsBoth y x r r' ∧ r'.result.Reorders t'.result

section Forgetting
variable {start : Automaton} (fresh : AllFresh start) (first : start.index = 0)
include fresh first

theorem commutes_of_not_canForget (never : ¬ start.CanForget) : start.Commutes := by
  intro deeds a run x y t t' both
  obtain ⟨n, r, r', here, swapped, _, _, alike⟩ := run.swapped fresh both
  obtain ⟨s, emitted, follows⟩ := (run.follows fresh).start_of_node here
  obtain ⟨m, found, at_node⟩ := both.node
  obtain rfl := Option.some.inj (here.symm.trans found)
  have own := fresh.at emitted
  have undelayed : ∀ {u v : Action} {ds es : List Value}, n.AcceptsBoth u v ds es →
      ¬ n.Delays u.actor ds v.actor es := by
    intro u v ds es at_node delays
    have alone := follows.accept_second own at_node
    obtain ⟨_, _, _, _, clear⟩ := Node.accept_eq_ok_iff.1 alone
    have may := follows.canForget_of_delays own at_node.differ at_node.second_some at_node.apart
      clear delays
    exact never (canForget_of_run fresh first run (Nat.le_refl _) emitted may)
  refine ⟨r, r', swapped, alike.2 ⟨undelayed at_node, ?_⟩⟩
  exact undelayed (follows.acceptsBoth_swapped own at_node)

theorem not_canForget_of_commutes (commutes : start.Commutes) : ¬ start.CanForget := by
  intro forgets
  obtain ⟨deeds, a, n, x, y, ds, es, run, here, at_node, delays⟩ :=
    exists_run_delaying fresh first forgets
  obtain ⟨t, t', both, rfl, rfl, _⟩ := Automaton.acceptsBoth_of_node here at_node
  obtain ⟨m, r, r', found, swapped, _, _, alike⟩ := run.swapped fresh both
  obtain rfl := Option.some.inj (here.symm.trans found)
  obtain ⟨u, u', again, reorders⟩ := commutes deeds a run x y t t' both
  obtain ⟨rfl, rfl⟩ := swapped.unique again
  exact (alike.1 reorders).1 delays

end Forgetting

/-- In a built workflow two actions of different actors on different documents at one node are
accepted in either order, and with the same outcome up to who is delayed. Nobody ever is exactly if
no node that can be come to asks for two actors or more and has as many documents as are asked
for. -/
theorem order_irrelevant_iff_undelayed {setting : Setting} {history : History}
    {steps : Option (List StepItem)} {documents : Option (List Value)} {w : Workflow}
    (built : Workflow.build setting history steps documents = .ok w) :
    (∀ deeds a, Run w.automaton deeds a → ∀ x y t t', a.AcceptsBoth x y t t' →
      ∃ n r r', a.nodes[a.landing]? = some n ∧ a.AcceptsBoth y x r r' ∧
        r'.result.index = t'.result.index ∧
        List.Forall₂ Node.SameDocuments r'.result.nodes t'.result.nodes ∧
        (r'.result.Reorders t'.result ↔ ¬ n.Delays x.actor t.requested y.actor t'.requested ∧
          ¬ n.Delays y.actor t'.requested x.actor t.requested)) ∧
    (w.automaton.Commutes ↔ ¬ w.automaton.CanForget) := by
  have fresh := Workflow.fresh_of_build built
  have first := (Workflow.start_of_build built).1
  refine ⟨?_, not_canForget_of_commutes fresh first, commutes_of_not_canForget fresh first⟩
  intro deeds a run x y t t' both
  exact run.swapped fresh both

def jointSigning : List StepItem :=
  [.step { process := .text "cosign", participants := some [.text "a", .text "b", .text "c"],
           signatureType := .int 1, cardinality := .authored (.int 3) }]

theorem order_irrelevant_with_all :
    ∃ w, Workflow.build office .empty (some jointSigning) (some [.int 10, .int 11]) = .ok w ∧
      w.automaton.Commutes := by
  have built : ∃ w, Workflow.build office .empty (some jointSigning)
      (some [.int 10, .int 11]) = .ok w ∧ ∃ s, w.automaton.nodes = [s] ∧
      s.quota = .int 3 ∧ s.documents.length = 2 := ⟨_, rfl, _, rfl, rfl, rfl⟩
  obtain ⟨w, built, s, nodes, quota, two⟩ := built
  refine ⟨w, built, (order_irrelevant_iff_undelayed built).2.2 ?_⟩
  rintro ⟨k, n, emitted, ⟨q, needs, _, enough⟩, _⟩
  have member := List.mem_of_getElem? emitted
  rw [nodes, List.mem_singleton] at member
  rw [member, two] at enough
  have three := needs q
  rw [member, quota, decide_eq_true (Nat.le_refl q), isReachedBy_of_same_int (same_refl _),
    decide_eq_true_eq] at three
  omega

/-- The second actor completes a document before the first acts on another, or after it. -/
theorem order_matters_for_two :
    ∃ w deeds a t t' r r', Workflow.build office .empty (some (pairSigning.take 1))
        (some [.int 10, .int 11]) = .ok w ∧
      w.automaton.play [cosign 1 [10]] = .ok (deeds, a) ∧
      a.AcceptsBoth (cosign 2 [10]) (cosign 1 [11]) t t' ∧
      a.AcceptsBoth (cosign 1 [11]) (cosign 2 [10]) r r' ∧
      t'.result.nodes.map Node.doneActors = [[]] ∧
      r'.result.nodes.map Node.doneActors = [[.int 1]] ∧ ¬ w.automaton.Commutes := by
  have reached : ∃ w deeds a t t' r r', Workflow.build office .empty (some (pairSigning.take 1))
        (some [.int 10, .int 11]) = .ok w ∧
      w.automaton.play [cosign 1 [10]] = .ok (deeds, a) ∧
      a.transition (cosign 2 [10]) = .ok t ∧ t.result.transition (cosign 1 [11]) = .ok t' ∧
      t'.landing = t.landing ∧
      a.transition (cosign 1 [11]) = .ok r ∧ r.result.transition (cosign 2 [10]) = .ok r' ∧
      r'.landing = r.landing ∧ t'.result.nodes.map Node.doneActors = [[]] ∧
      r'.result.nodes.map Node.doneActors = [[.int 1]] :=
    ⟨_, _, _, _, _, _, _, rfl, rfl, rfl, rfl, rfl, rfl, rfl, rfl, rfl, rfl⟩
  obtain ⟨w, deeds, a, t, t', r, r', built, played, taken, taken', together, swapped, swapped',
    together', nobody, somebody⟩ := reached
  have one : a.AcceptsBoth (cosign 2 [10]) (cosign 1 [11]) t t' :=
    ⟨by decide, by decide, by decide, by decide, taken, taken', together⟩
  have other : a.AcceptsBoth (cosign 1 [11]) (cosign 2 [10]) r r' :=
    ⟨by decide, by decide, by decide, by decide, swapped, swapped', together'⟩
  refine ⟨w, deeds, a, t, t', r, r', built, played, one, other, nobody, somebody, fun law => ?_⟩
  obtain ⟨u, u', again, reorders⟩ := law deeds a (run_of_play played) _ _ t t' one
  obtain ⟨rfl, rfl⟩ := other.unique again
  have done := reorders.done
  rw [somebody, nobody] at done
  cases done with
  | cons head _ => exact absurd head.eq_nil (List.cons_ne_nil _ _)

end SignatureRouting
