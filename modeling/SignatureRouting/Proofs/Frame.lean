import SignatureRouting.Proofs.Requests
import SignatureRouting.Proofs.Soundness

/-!
What an action leaves as it is. It changes the node it lands on and no other. There the open
documents and their progress are gone through together, so the entries that stay are still paired
when those in between are gone, and what is removed is done, in the order in which it was open. This
needs nothing of the node: documents may be open twice, and progress may be past the quota. Over a
run a node therefore loses no document and gains none.
-/
namespace SignatureRouting
open Value

theorem map_filter_at {α β : Type} (p : α → Bool) (f : α → β) (l : List α) :
    ((l.filter p).map f).map some = (l.findIdxs p).map fun i => (l.map f)[i]? := by
  apply List.ext_getElem
  · rw [List.length_map, List.length_map, List.length_map, List.length_findIdxs,
      List.countP_eq_length_filter]
  · intro j first second
    rw [List.length_map, List.length_map] at first
    rw [List.getElem_map, List.getElem_map, List.getElem_map, List.getElem?_map,
      List.getElem_filter_eq_getElem_getElem_findIdxs first, List.getElem?_eq_getElem,
      Option.map_some]

namespace Node

/-- Who has acted at each open place once an action is counted. It is counted at the places that its
documents name. -/
def progressAfter (n : Node) (x : Action) : List (List Value) :=
  n.progress.mapIdx fun i actors =>
    if ∃ d ∈ x.documents, n.position? d = some i then actors ++ [x.actor] else actors

def staying (n : Node) (x : Action) : List Nat :=
  (n.progressAfter x).findIdxs fun actors => !n.quota.isReachedBy actors.length

def completed (n : Node) (x : Action) : List Nat :=
  (n.progressAfter x).findIdxs fun actors => n.quota.isReachedBy actors.length

def isEarned (n : Node) (x : Action) : Bool :=
  n.quota.isReachedBy ((n.progressAfter x).countP (·.contains x.actor))

structure Framed (n m : Node) (x : Action) : Prop where
  step : m.step = n.step
  role : m.role = n.role
  tag : m.tag = n.tag
  quota : m.quota = n.quota
  /-- Places that stay open keep their documents, and those their progress. -/
  documents : m.documents.map some = (n.staying x).map fun i => n.documents[i]?
  progress : m.progress.map some = (n.staying x).map fun i => (n.progressAfter x)[i]?
  subsequence : m.documents.Sublist n.documents
  doneDocuments : ∃ removed, m.doneDocuments = n.doneDocuments ++ removed ∧
    removed.map some = (n.completed x).map (fun i => n.documents[i]?) ∧
    (removed ++ m.documents).Perm n.documents
  doneActors : m.doneActors = if n.isEarned x then n.doneActors ++ [x.actor] else n.doneActors
  actors : m.actors =
    if n.isEarned x then n.actors.filter fun v => !(v.equals x.actor) else n.actors

section Framed
variable (n : Node) (x : Action)

def entriesAfter : List OpenDocument := n.marked x.actor (x.documents.filterMap n.position?)

theorem map_id_entriesAfter : (n.entriesAfter x).map (·.id) = n.documents := by
  refine List.ext_getElem? fun i => ?_
  rw [entriesAfter, marked, documents, List.getElem?_map, List.getElem?_mapIdx, List.getElem?_map,
    Option.map_map]
  refine congrFun (congrArg Option.map (funext fun o => ?_)) _
  simp only [Function.comp_apply]
  split <;> rfl

theorem map_actors_entriesAfter : (n.entriesAfter x).map (·.actors) = n.progressAfter x := by
  refine List.ext_getElem? fun i => ?_
  rw [entriesAfter, marked, progressAfter, progress, List.getElem?_map, List.getElem?_mapIdx,
    List.getElem?_mapIdx, List.getElem?_map, Option.map_map, Option.map_map]
  refine congrFun (congrArg Option.map (funext fun o => ?_)) _
  simp only [Function.comp_apply, List.mem_filterMap]
  split <;> rfl

theorem entriesAfter_filter (p : List Value → Bool) :
    (((n.entriesAfter x).filter fun o => p o.actors).map (·.id)).map some =
        ((n.progressAfter x).findIdxs p).map (fun i => n.documents[i]?) ∧
      (((n.entriesAfter x).filter fun o => p o.actors).map (·.actors)).map some =
        ((n.progressAfter x).findIdxs p).map fun i => (n.progressAfter x)[i]? := by
  have places : (n.progressAfter x).findIdxs p =
      (n.entriesAfter x).findIdxs fun o => p o.actors := by
    rw [← map_actors_entriesAfter, List.findIdxs_map]
    rfl
  rw [map_filter_at, map_filter_at, places, map_id_entriesAfter, map_actors_entriesAfter]
  exact ⟨rfl, rfl⟩

theorem isEarned_eq :
    n.isEarned x = n.quota.isReachedBy ((n.entriesAfter x).countP (·.actors.contains x.actor)) := by
  rw [isEarned, ← map_actors_entriesAfter, List.countP_map]
  rfl

theorem framed_record : n.Framed (n.record x.actor x.documents) x where
  step := rfl
  role := rfl
  tag := rfl
  quota := rfl
  documents := (n.entriesAfter_filter x fun actors => !n.quota.isReachedBy actors.length).1
  progress := (n.entriesAfter_filter x fun actors => !n.quota.isReachedBy actors.length).2
  subsequence := by
    rw [← n.map_id_entriesAfter x]
    exact List.filter_sublist.map _
  doneDocuments := by
    refine ⟨_, rfl, (n.entriesAfter_filter x fun actors => n.quota.isReachedBy actors.length).1, ?_⟩
    rw [← n.map_id_entriesAfter x, documents, ← List.map_append]
    exact (List.filter_append_perm _ _).map _
  doneActors := by
    rw [isEarned_eq]
    rfl
  actors := by
    rw [isEarned_eq]
    rfl

end Framed

structure Evolves (n m : Node) : Prop where
  step : m.step = n.step
  role : m.role = n.role
  tag : m.tag = n.tag
  quota : m.quota = n.quota
  documents : m.documents.Sublist n.documents
  actors : m.actors.Sublist n.actors
  doneDocuments : n.doneDocuments <+: m.doneDocuments
  doneActors : n.doneActors <+: m.doneActors
  conserved : (m.doneDocuments ++ m.documents).Perm (n.doneDocuments ++ n.documents)

theorem Evolves.refl (n : Node) : n.Evolves n :=
  ⟨rfl, rfl, rfl, rfl, .refl _, .refl _, List.prefix_refl _, List.prefix_refl _, .refl _⟩

theorem Evolves.trans {n m l : Node} (first : n.Evolves m) (second : m.Evolves l) :
    n.Evolves l where
  step := second.step.trans first.step
  role := second.role.trans first.role
  tag := second.tag.trans first.tag
  quota := second.quota.trans first.quota
  documents := second.documents.trans first.documents
  actors := second.actors.trans first.actors
  doneDocuments := first.doneDocuments.trans second.doneDocuments
  doneActors := first.doneActors.trans second.doneActors
  conserved := second.conserved.trans first.conserved

theorem Framed.evolves {n m : Node} {x : Action} (framed : n.Framed m x) : n.Evolves m where
  step := framed.step
  role := framed.role
  tag := framed.tag
  quota := framed.quota
  documents := framed.subsequence
  actors := by
    rw [framed.actors]
    split
    · exact List.filter_sublist
    · exact .refl _
  doneDocuments := by
    obtain ⟨removed, done, _⟩ := framed.doneDocuments
    exact ⟨removed, done.symm⟩
  doneActors := by
    rw [framed.doneActors]
    split
    · exact List.prefix_append _ _
    · exact List.prefix_refl _
  conserved := by
    obtain ⟨removed, done, _, all⟩ := framed.doneDocuments
    rw [done, List.append_assoc]
    exact all.append_left _

end Node

namespace Automaton
variable {a : Automaton} {x : Action} {t : Transition}

theorem framed_at_landing (accepted : a.transition x = .ok t) :
    ∃ n, a.nodes[t.landing]? = some n ∧ n.Framed t.node x := by
  obtain ⟨n, here, became, _, different, _⟩ := of_transition accepted
  refine ⟨n, here, ?_⟩
  -- The node is told each document once, which comes to the same as all that the action lists.
  rw [became, n.record_congr x.actor (contains_of_unique? different)]
  exact n.framed_record x

theorem transition_frame (accepted : a.transition x = .ok t) :
    t.result.nodes.length = a.nodes.length ∧
    (∀ k, k ≠ t.landing → t.result.nodes[k]? = a.nodes[k]?) ∧
    ∃ n m, a.nodes[t.landing]? = some n ∧ t.result.nodes[t.landing]? = some m ∧ n.Framed m x := by
  refine ⟨(index_le_of_transition accepted).1, fun k other => ?_, ?_⟩
  · rw [getElem?_result accepted, if_neg other.symm]
  · obtain ⟨n, here, framed⟩ := framed_at_landing accepted
    exact ⟨n, t.node, here, by rw [getElem?_result accepted, if_pos rfl], framed⟩

end Automaton

/-- The action completes the document at both its places, of which the first had actors enough
before, and what stands between them stays. -/
theorem transition_frame_muddled :
    ∃ a t n m, Automaton.ofValue muddledSnapshot = .ok a ∧ a.transition (cosign 2 [10]) = .ok t ∧
      a.nodes[0]? = some n ∧ t.result.nodes[0]? = some m ∧ n.Framed m (cosign 2 [10]) ∧
      n.staying (cosign 2 [10]) = [1] ∧ n.completed (cosign 2 [10]) = [0, 2] ∧
      n.isEarned (cosign 2 [10]) = false := by
  have loading : ∃ a t n, Automaton.ofValue muddledSnapshot = .ok a ∧
      a.transition (cosign 2 [10]) = .ok t ∧ t.landing = 0 ∧ a.nodes[0]? = some n ∧
      n.staying (cosign 2 [10]) = [1] ∧ n.completed (cosign 2 [10]) = [0, 2] ∧
      n.isEarned (cosign 2 [10]) = false := ⟨_, _, _, rfl, rfl, rfl, rfl, rfl, rfl, rfl⟩
  obtain ⟨a, t, n, loaded, accepted, first, here, staying, completed, working⟩ := loading
  obtain ⟨_, _, n', m, before, after, framed⟩ := Automaton.transition_frame accepted
  rw [first] at before after
  obtain rfl := Option.some.inj (here.symm.trans before)
  exact ⟨a, t, n, m, loaded, accepted, here, after, framed, staying, completed, working⟩

theorem Run.evolves {a b : Automaton} {deeds : List Deed} (run : Run a deeds b) {k : Nat} {n : Node}
    (here : a.nodes[k]? = some n) : ∃ m, b.nodes[k]? = some m ∧ n.Evolves m := by
  induction run with
  | none => exact ⟨n, here, .refl n⟩
  | @act deeds b x t before accepted ih =>
    obtain ⟨m, later, evolves⟩ := ih
    rw [Automaton.getElem?_result accepted]
    split
    · rename_i landed
      subst landed
      obtain ⟨l, at_landing, framed⟩ := Automaton.framed_at_landing accepted
      obtain rfl := Option.some.inj (later.symm.trans at_landing)
      exact ⟨t.node, rfl, evolves.trans framed.evolves⟩
    · exact ⟨m, later, evolves⟩

end SignatureRouting
