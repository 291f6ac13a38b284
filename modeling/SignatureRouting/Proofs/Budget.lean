import SignatureRouting.Proofs.Frontier
import SignatureRouting.Proofs.Lockstep
import SignatureRouting.Proofs.RoundTrip

/-!
How much a workflow takes. The room of a node is how many actors its open documents still take. An
accepted action uses up as much room as it names different documents, so the log never becomes
longer than the room there was at the start. An action without documents uses up nothing. In a state
that a built workflow comes to it does not even complete a document or retire an actor, and though
the cursor may move, it moves to where the next action lands anyway.
-/
namespace SignatureRouting
open Value

section Sums
variable {α β : Type}

theorem sum_map_add_countP {l : List α} {f g : α → Nat} {p : α → Bool}
    (each : ∀ v ∈ l, f v + (if p v then 1 else 0) = g v) :
    (l.map f).sum + l.countP p = (l.map g).sum := by
  induction l with
  | nil => rfl
  | cons v rest ih =>
    obtain ⟨first, later⟩ := List.forall_mem_cons.1 each
    have total := ih later
    rw [List.map_cons, List.map_cons, List.sum_cons, List.sum_cons, List.countP_cons]
    omega

theorem sum_map_filter {l : List α} {f : α → Nat} {p : α → Bool}
    (nothing : ∀ v ∈ l, p v = false → f v = 0) : ((l.filter p).map f).sum = (l.map f).sum := by
  induction l with
  | nil => rfl
  | cons v rest ih =>
    obtain ⟨first, later⟩ := List.forall_mem_cons.1 nothing
    rw [List.filter_cons, List.map_cons, List.sum_cons, ← ih later]
    cases kept : p v with
    | true => rfl
    | false => rw [first kept, Nat.zero_add]; rfl

theorem sum_zipWith_set {f : α → β → Nat} {l : List α} {m : List β} {k less : Nat} {a a' : α}
    {b : β} (left : l[k]? = some a) (right : m[k]? = some b) (used : less + f a' b = f a b) :
    less + (List.zipWith f (l.set k a') m).sum = (List.zipWith f l m).sum := by
  induction l generalizing m k with
  | nil => simp at left
  | cons v rest ih =>
    cases m with
    | nil => simp at right
    | cons w more =>
      cases k with
      | zero =>
        obtain rfl := Option.some.inj left
        obtain rfl := Option.some.inj right
        rw [List.set_cons_zero, List.zipWith_cons_cons, List.zipWith_cons_cons, List.sum_cons,
          List.sum_cons, ← Nat.add_assoc, used]
      | succ k =>
        rw [List.set_cons_succ, List.zipWith_cons_cons, List.zipWith_cons_cons, List.sum_cons,
          List.sum_cons, Nat.add_left_comm, ih left right]

theorem countP_mem_of_nodup [DecidableEq α] {l m : List α} (once : l.Nodup) (apart : m.Nodup)
    (within : l ⊆ m) : m.countP (fun v => v ∈ l) = l.length := by
  rw [List.countP_eq_length_filter]
  apply List.Perm.length_eq
  rw [List.perm_ext_iff_of_nodup (apart.filter _) once]
  intro v
  rw [List.mem_filter, decide_eq_true_eq]
  exact ⟨And.right, fun member => ⟨within member, member⟩⟩

end Sums

namespace Node

/-- An action without documents changes nothing where no open document has actors enough and its
actor has not acted on enough of them. -/
theorem record_nothing {n : Node} {v : Value}
    (short : ∀ o ∈ n.opened, n.quota.isReachedBy o.actors.length = false)
    (busy : n.quota.isReachedBy (n.opened.countP (·.actors.contains v)) = false) :
    n.record v [] = n := by
  have marked : n.marked v [] = n.opened := List.ext_getElem? fun i => by simp [Node.marked]
  have stays : n.opened.filter (fun o => !o.isComplete n.quota) = n.opened := by
    apply List.filter_eq_self.2
    intro o listed
    rw [Bool.not_eq_true']
    exact short o listed
  have leaves : n.opened.filter (fun o => o.isComplete n.quota) = [] := by
    apply List.filter_eq_nil_iff.2
    intro o listed
    rw [Bool.not_eq_true]
    exact short o listed
  unfold isReachedBy at busy
  simp only [record, List.filterMap_nil, marked, stays, leaves, busy, List.map_nil, List.append_nil,
    Bool.false_eq_true, if_false]

theorem Follows.record_nothing {start n : Node} {acted : Value → List Value}
    (follows : Follows start n acted) {v : Value} (eligible : n.isEligible v = true) :
    n.record v [] = n := by
  apply Node.record_nothing
  · intro o listed
    obtain ⟨_, actors, short⟩ := follows.progress.mem_opened listed
    rw [isReachedBy_congr follows.quota, actors, short]
  · rw [isReachedBy_congr follows.quota]
    exact follows.roster.below v eligible

def room (n : Node) (quota : Nat) : Nat := (n.opened.map fun o => quota - o.actors.length).sum

theorem same_of_position? {n : Node} {c d : Value} {i : Nat} (first : n.position? c = some i)
    (second : n.position? d = some i) : (c == d) = true := by
  obtain ⟨o, here, named⟩ := lastIndex?_eq_some first
  obtain ⟨p, there, named'⟩ := lastIndex?_eq_some second
  obtain rfl := Option.some.inj (here.symm.trans there)
  exact same_trans (same_symm named) named'

section Room
variable {n : Node} {v : Value} {requested : List Value} (distinct : Distinct requested)
  (clear : ∀ d ∈ requested, n.obstacle? v d = none)
include clear

theorem exists_place_of_clear {d : Value} (asked : d ∈ requested) :
    ∃ i o, n.position? d = some i ∧ n.opened[i]? = some o ∧
      n.quota.isReachedBy o.actors.length = false := by
  obtain ⟨_, o, found, short, _⟩ := obstacle?_eq_none_iff.1 (clear d asked)
  obtain ⟨i, place, here⟩ := Option.bind_eq_some_iff.1 found
  exact ⟨i, o, place, here, short⟩

include distinct

theorem places_of_clear : (requested.filterMap n.position?).Nodup ∧
    (requested.filterMap n.position?).length = requested.length := by
  induction requested with
  | nil => exact ⟨List.nodup_nil, rfl⟩
  | cons d rest ih =>
    obtain ⟨absent, apart⟩ := distinct_cons.1 distinct
    obtain ⟨once, all⟩ := ih apart fun e asked => clear e (List.mem_cons_of_mem d asked)
    obtain ⟨i, _, place, _⟩ := exists_place_of_clear clear List.mem_cons_self
    rw [List.filterMap_cons_some place, List.nodup_cons, List.length_cons, List.length_cons, all]
    refine ⟨⟨fun again => ?_, once⟩, rfl⟩
    obtain ⟨e, asked, place'⟩ := List.mem_filterMap.1 again
    rw [contains_congr rest (same_of_position? place place'), contains_of_mem asked] at absent
    contradiction

theorem countP_places : n.opened.zipIdx.countP
    (fun entry => entry.2 ∈ requested.filterMap n.position?) = requested.length := by
  obtain ⟨once, all⟩ := places_of_clear distinct clear
  have inside : requested.filterMap n.position? ⊆ List.range' 0 n.opened.length := by
    intro i place
    obtain ⟨d, _, found⟩ := List.mem_filterMap.1 place
    obtain ⟨o, here, _⟩ := lastIndex?_eq_some found
    have within := (List.getElem?_eq_some_iff.1 here).1
    exact List.mem_range'_1.2 ⟨Nat.zero_le i, by omega⟩
  have count := countP_mem_of_nodup once List.nodup_range' inside
  rw [← List.zipIdx_map_snd, List.countP_map, all] at count
  exact count

theorem room_marked {q : Nat} (needs : n.quota.Needs q) :
    ((n.marked v (requested.filterMap n.position?)).map fun o => q - o.actors.length).sum +
      requested.length = n.room q := by
  have entries : n.room q = (n.opened.zipIdx.map fun entry => q - entry.1.actors.length).sum := by
    rw [room, ← List.zipIdx_map_fst 0 n.opened, List.map_map, List.zipIdx_map_fst]
    rfl
  rw [entries, ← countP_places distinct clear, marked, List.mapIdx_eq_zipIdx_map, List.map_map]
  apply sum_map_add_countP
  intro entry member
  have here := List.mem_zipIdx_iff_getElem?.1 member
  simp only [Function.comp_apply]
  -- A named place has room left, so one actor more takes one from a difference that is not zero.
  by_cases named : entry.2 ∈ requested.filterMap n.position?
  · obtain ⟨d, asked, found⟩ := List.mem_filterMap.1 named
    obtain ⟨i, o, place, there, short⟩ := exists_place_of_clear clear asked
    obtain rfl := Option.some.inj (found.symm.trans place)
    obtain rfl := Option.some.inj (here.symm.trans there)
    have fewer := needs.lt_of_unreached short
    rw [if_pos named, decide_eq_true named, if_pos rfl, OpenDocument.add, List.length_append,
      List.length_singleton]
    omega
  · rw [if_neg named, decide_eq_false named, if_neg Bool.false_ne_true, Nat.add_zero]

theorem room_record {q : Nat} (needs : n.quota.Needs q) :
    requested.length + (n.record v requested).room q = n.room q := by
  have kept : (n.record v requested).room q =
      ((n.marked v (requested.filterMap n.position?)).map fun o => q - o.actors.length).sum := by
    -- What is completed goes, but takes no room with it.
    apply sum_map_filter
    intro o _ complete
    rw [Bool.not_eq_false', OpenDocument.isComplete, ← isReachedBy, needs,
      decide_eq_true_eq] at complete
    omega
  rw [kept, Nat.add_comm, room_marked distinct clear needs]

end Room

theorem room_of_fresh {n : Node} (fresh : n.Fresh) (q : Nat) :
    n.room q = q * n.documents.length := by
  have untouched : (fun o : OpenDocument => q - o.actors.length) ∘ (fun d => ⟨d, []⟩) =
    fun _ : Value => q := rfl
  rw [room, opened_eq_map_of_fresh fresh, List.map_map, untouched, List.map_const',
    List.sum_replicate_nat, Nat.mul_comm]

end Node

namespace Automaton
variable {a b : Automaton}

theorem transition_congr (nodes : b.nodes = a.nodes) (landing : b.landing = a.landing)
    (x : Action) : b.transition x = a.transition x := by
  rw [transition, transition, nodes, landing]

theorem attempt_congr (nodes : b.nodes = a.nodes) (landing : b.landing = a.landing)
    (x : Attempt) : b.attempt x = a.attempt x := by
  cases listed : x.documents.elements? with
  | some ds =>
    rw [attempt_of_collection listed, attempt_of_collection listed, transition_congr nodes landing]
  | none =>
    rw [attempt_of_no_collection listed, attempt_of_no_collection listed,
      transition_congr nodes landing]

theorem result_of_nothing {start : Automaton} {acted : Nat → Value → List Value}
    (all : AllFollow start a acted) {x : Action} (nothing : x.documents = []) {t : Transition}
    (accepted : a.transition x = .ok t) :
    t.result.nodes = a.nodes ∧ t.result.landing = a.landing := by
  obtain ⟨n, requested, here, taken, rfl⟩ := transition_eq_ok_iff.1 accepted
  obtain ⟨_, eligible, different, _⟩ := Node.accept_eq_ok_iff.1 taken
  obtain rfl : requested = [] := (eq_nil_iff_of_unique? different).2 nothing
  obtain ⟨_, _, follows⟩ := all.start_of_node here
  have unfinished := unfinished_at_landing here
  have some_open : n.opened.isEmpty = false := by
    rw [Node.isFinished, Bool.or_eq_false_iff] at unfinished
    exact unfinished.1
  have same : a.nodes.set a.landing n = a.nodes := by
    obtain ⟨inside, rfl⟩ := List.getElem?_eq_some_iff.1 here
    exact List.set_getElem_self inside
  have stays : a.advance (n.record x.actor []) = ⟨a.nodes, a.landing⟩ := by
    rw [advance, follows.record_nothing eligible, same, some_open, if_neg Bool.false_ne_true]
  rw [stays]
  exact ⟨rfl, landing_of_unfinished here unfinished⟩

def room (a : Automaton) (quotas : List Nat) : Nat := (List.zipWith Node.room a.nodes quotas).sum

variable {quotas : List Nat} (counted : a.Quotas quotas)
include counted

theorem Quotas.transition {x : Action} {t : Transition} (accepted : a.transition x = .ok t) :
    t.result.Quotas quotas := by
  obtain ⟨n, here, became, _⟩ := of_transition accepted
  obtain ⟨inside, rfl⟩ := List.getElem?_eq_some_iff.1 here
  have among : t.landing < quotas.length := counted.length_eq ▸ inside
  have kept : (t.node.quota == .int quotas[t.landing]) = true :=
    became ▸ counted.get inside among
  rw [Quotas, (result_of_transition accepted).1, ← List.set_getElem_self among]
  exact forall₂_set counted kept t.landing

theorem room_transition {x : Action} {t : Transition} (accepted : a.transition x = .ok t) :
    t.requested.length + t.result.room quotas = a.room quotas := by
  obtain ⟨n, here, became, _, _, clear⟩ := of_transition accepted
  obtain ⟨q, quota, needs⟩ := counted.at here
  rw [room, room, (result_of_transition accepted).1]
  apply sum_zipWith_set here quota
  rw [became]
  exact Node.room_record (distinct_requested accepted) clear needs

end Automaton

section Run
variable {a b : Automaton} {deeds : List Deed} (run : Run a deeds b)
include run

/-- Whatever is done, what is logged and the room that is left add up to the room at the start. -/
theorem Run.room {quotas : List Nat} (counted : a.Quotas quotas) :
    b.Quotas quotas ∧ (log deeds).length + b.room quotas = a.room quotas := by
  induction run with
  | none => exact ⟨counted, Nat.zero_add _⟩
  | @act deeds b x t before accepted ih =>
    obtain ⟨kept, total⟩ := ih
    refine ⟨kept.transition accepted, ?_⟩
    rw [log_append_one, List.length_append, Deed.events, List.length_map, Nat.add_assoc,
      Automaton.room_transition kept accepted, total]

theorem Run.countP_le_log :
    deeds.countP (fun deed => !deed.action.documents.isEmpty) ≤ (log deeds).length := by
  induction run with
  | none => exact Nat.zero_le _
  | @act deeds b x t before accepted ih =>
    obtain ⟨_, _, _, _, different, _⟩ := Automaton.of_transition accepted
    rw [List.countP_append, log_append_one, List.length_append, Deed.events, List.length_map]
    apply Nat.add_le_add ih
    rw [List.countP_singleton]
    split
    · rename_i given
      rw [Bool.not_eq_true', List.isEmpty_eq_false_iff] at given
      exact List.length_pos_of_ne_nil fun none => given ((eq_nil_iff_of_unique? different).1 none)
    · exact Nat.zero_le _

end Run

theorem room_start {start : Automaton} (fresh : AllFresh start) {quotas : List Nat}
    (counted : start.Quotas quotas) {documents : List Value}
    (shared : ∀ n ∈ start.nodes, n.documents = documents) :
    start.room quotas = (quotas.map (· * documents.length)).sum := by
  have each : List.zipWith Node.room start.nodes quotas = quotas.map (· * documents.length) := by
    apply List.ext_getElem
    · rw [List.length_zipWith, List.length_map, counted.length_eq, Nat.min_self]
    · intro k first second
      rw [List.getElem_zipWith, List.getElem_map, Node.room_of_fresh (fresh _ (List.getElem_mem _)),
        shared _ (List.getElem_mem _)]
  rw [Automaton.room, each]

section Built
variable {setting : Setting} {history : History} {steps : Option (List StepItem)}
  {documents : Option (List Value)} {w : Workflow}
  (built : Workflow.build setting history steps documents = .ok w)
  (integral : ∀ item ∈ steps.getD [], item.IsIntegral)
include built integral

/-- An action without documents changes no node and no later outcome, and of others a workflow
accepts no more than its documents take actors. -/
theorem empty_actions_unseen_others_bounded :
    (∀ deeds a, Run w.automaton deeds a → ∀ x t, x.documents = [] → a.transition x = .ok t →
      t.result.nodes = a.nodes ∧ (∀ y, t.result.apply y = a.apply y) ∧
        ∀ y, t.result.attempt y = a.attempt y) ∧
    ∃ quotas, w.automaton.Quotas quotas ∧ ∀ deeds a, Run w.automaton deeds a →
      (log deeds).length + a.room quotas = (quotas.map (· * w.documents.length)).sum ∧
      deeds.countP (fun deed => !deed.action.documents.isEmpty) ≤
        (quotas.map (· * w.documents.length)).sum := by
  have fresh := Workflow.fresh_of_build built
  constructor
  · intro deeds a run x t nothing accepted
    obtain ⟨nodes, landing⟩ := Automaton.result_of_nothing (run.follows fresh) nothing accepted
    refine ⟨nodes, fun y => ?_, Automaton.attempt_congr nodes landing⟩
    rw [Automaton.apply, Automaton.apply, Automaton.transition_congr nodes landing]
  · obtain ⟨quotas, counted⟩ := exists_quotas_of_build built integral
    have shared := (Workflow.start_of_build built).2
    refine ⟨quotas, counted, fun deeds a run => ?_⟩
    have total := (run.room counted).2
    rw [room_start fresh counted shared] at total
    exact ⟨total, Nat.le_trans run.countP_le_log (by omega)⟩

end Built

theorem pairSigning_integral : ∀ item ∈ pairSigning, item.IsIntegral := by
  intro item member
  simp only [pairSigning, List.mem_cons, List.not_mem_nil, or_false] at member
  rcases member with rfl | rfl
  · intro c parsed
    obtain rfl := Option.some.inj (Except.ok.inj parsed)
    exact isIntegral_int 2
  · intro c parsed
    cases Except.ok.inj parsed

/-- Both signers are done with two documents left open. The last action asks for nothing and brings
the cursor on to where the documents are sent. -/
theorem empty_actions_unseen_others_bounded_at_deserted :
    ∃ w deeds a t,
      Workflow.build office .empty (some pairSigning) (some [.int 10, .int 11, .int 12]) = .ok w ∧
      w.automaton.play [cosign 1 [10, 11], cosign 2 [10, 12]] = .ok (deeds, a) ∧
      a.transition ⟨.int 4, .text "to", []⟩ = .ok t ∧ a.index = 0 ∧ t.result.index = 1 ∧
      t.result.nodes = a.nodes ∧ (∀ y, t.result.apply y = a.apply y) ∧
      ∀ more b, Run w.automaton more b →
        more.countP (fun deed => !deed.action.documents.isEmpty) ≤ 9 := by
  have reached : ∃ w deeds a t m n,
      Workflow.build office .empty (some pairSigning) (some [.int 10, .int 11, .int 12]) = .ok w ∧
      w.automaton.play [cosign 1 [10, 11], cosign 2 [10, 12]] = .ok (deeds, a) ∧
      a.transition ⟨.int 4, .text "to", []⟩ = .ok t ∧ a.index = 0 ∧ t.result.index = 1 ∧
      w.automaton.nodes = [m, n] ∧ m.quota = .int 2 ∧ n.quota = .int 1 ∧
      w.documents.length = 3 := ⟨_, _, _, _, _, _, rfl, rfl, rfl, rfl, rfl, rfl, rfl, rfl, rfl⟩
  obtain ⟨w, deeds, a, t, m, n, built, played, accepted, before, after, nodes, two, one, three⟩ :=
    reached
  obtain ⟨unseen, quotas, counted, bounded⟩ :=
    empty_actions_unseen_others_bounded built pairSigning_integral
  obtain ⟨same, later, _⟩ := unseen deeds a (run_of_play played) _ t rfl accepted
  refine ⟨w, deeds, a, t, built, played, accepted, before, after, same, later, fun more b run => ?_⟩
  obtain ⟨_, most⟩ := bounded more b run
  rw [Automaton.Quotas, nodes] at counted
  cases counted with
  | cons first rest =>
    cases rest with
    | cons second rest =>
      cases rest
      rw [two, int_same_int] at first
      rw [one, int_same_int] at second
      rw [three, List.map_cons, List.map_cons, List.map_nil, List.sum_cons, List.sum_cons,
        List.sum_nil] at most
      omega

end SignatureRouting
