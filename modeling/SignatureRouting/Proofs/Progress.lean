import Mathlib.Data.List.Perm.Basic
import SignatureRouting.Proofs.Recording

/-!
A node against the node it started as. What has happened at a node is a list of actors for each
document, the same list for documents that are the same. The documents side says that the open
documents are exactly those whose list falls short of the quota, in their first order and with that
list as their progress, and that all others are done. The actors side says who may still act and
who is done. Both hold of an untouched node and are kept by recording an action that nothing
obstructs.
-/
namespace SignatureRouting
open Value

namespace Node

structure Fresh (n : Node) : Prop where
  step : ∃ place : Int, n.step = .int place
  tag : ∃ word : String, n.tag = .text word
  somebody : 0 < n.actors.length
  something : n.documents ≠ []
  actors_distinct : Distinct n.actors
  documents_distinct : Distinct n.documents
  identifiers : ∀ d ∈ n.documents, d.isIdentifier = true
  countable : n.quota.isNumber = true
  least : n.quota.lt (.int 1) = false
  most : (Value.int n.actors.length).lt n.quota = false
  untouched : ∀ o ∈ n.opened, o.actors = []
  nobody_done : n.doneActors = []
  nothing_done : n.doneDocuments = []

theorem Fresh.needs_iff {n : Node} (fresh : n.Fresh) :
    (∃ q, n.quota.Needs q) ↔ ¬ ∀ count, n.quota.isReachedBy count = false :=
  exists_needs_iff fresh.least fresh.most

/-- The documents of a node in terms of who has acted on each. -/
structure Progress (start n : Node) (acted : Value → List Value) : Prop where
  alike : ∀ {d e}, (d == e) = true → acted d = acted e
  opened : n.opened = (start.documents.filter fun d =>
    !start.quota.isReachedBy (acted d).length).map fun d => ⟨d, acted d⟩
  done : n.doneDocuments.Perm
    (start.documents.filter fun d => start.quota.isReachedBy (acted d).length)
  distinct : ∀ d, Distinct (acted d)
  members : ∀ d, ∀ v ∈ acted d, start.actors.contains v = true
  within : ∀ d, acted d ≠ [] → start.documents.contains d = true
  unfilled : ∀ d, start.quota.isReachedBy ((acted d).length - 1) = false

/-- The actors of a node. A retiring actor leaves the others unless it is undefined. -/
structure Roster (start n : Node) (acted : Value → List Value) : Prop where
  remaining : n.actors.Sublist start.actors
  known : ∀ v, start.actors.contains v = true →
    n.actors.contains v = true ∨ n.doneActors.contains v = true
  done_known : ∀ v ∈ n.doneActors, start.actors.contains v = true
  done_distinct : Distinct n.doneActors
  apart : ∀ v ∈ n.actors, v.isUndefined = false → n.doneActors.contains v = false
  below : ∀ v, n.isEligible v = true →
    start.quota.isReachedBy (n.opened.countP (·.actors.contains v)) = false
  earned : ∀ v ∈ n.doneActors,
    start.quota.isReachedBy (start.documents.countP fun d => (acted d).contains v) = true

/-- A node that has come from another by actions which did this much. -/
structure Follows (start n : Node) (acted : Value → List Value) : Prop where
  step : n.step = start.step
  role : n.role = start.role
  tag : n.tag = start.tag
  quota : (n.quota == start.quota) = true
  progress : Progress start n acted
  roster : Roster start n acted

def actedAfter (acted : Value → List Value) (actor : Value) (requested : List Value) (d : Value) :
    List Value :=
  if requested.contains d then acted d ++ [actor] else acted d

section Acted
variable {acted : Value → List Value} {actor d : Value} {requested : List Value}

theorem actedAfter_of_asked (asked : requested.contains d = true) :
    actedAfter acted actor requested d = acted d ++ [actor] := by
  rw [actedAfter, if_pos asked]

theorem actedAfter_of_unasked (unasked : requested.contains d = false) :
    actedAfter acted actor requested d = acted d := by
  rw [actedAfter, unasked, if_neg Bool.false_ne_true]

end Acted

theorem opened_eq_map_of_fresh {n : Node} (fresh : n.Fresh) :
    n.opened = n.documents.map fun d => ⟨d, []⟩ := by
  rw [documents, List.map_map]
  refine (List.map_id n.opened).symm.trans (List.map_congr_left fun o member => ?_)
  exact congrArg (OpenDocument.mk o.id) (fresh.untouched o member)

theorem follows_of_fresh {n : Node} (fresh : n.Fresh) : Follows n n fun _ => [] := by
  have none_reached : n.quota.isReachedBy 0 = false := not_reached_by_zero fresh.least
  refine ⟨rfl, rfl, rfl, same_refl _, ?_, ?_⟩
  · refine ⟨fun _ => rfl, ?_, ?_, fun _ => distinct_nil, ?_, ?_, fun _ => none_reached⟩
    · have all : (n.documents.filter fun _ => !n.quota.isReachedBy 0) = n.documents := by
        simp [none_reached]
      exact (opened_eq_map_of_fresh fresh).trans (by simp only [List.length_nil, all])
    · rw [fresh.nothing_done]
      simp [none_reached]
    · intro d v member
      contradiction
    · intro d some
      contradiction
  · refine ⟨List.Sublist.refl _, fun v known => Or.inl known, ?_, ?_, ?_, ?_, ?_⟩
    · simp [fresh.nobody_done]
    · rw [fresh.nobody_done]
      exact distinct_nil
    · simp [fresh.nobody_done]
    · intro v _
      have nowhere : n.opened.countP (·.actors.contains v) = 0 := by
        rw [List.countP_eq_zero]
        intro o member
        simp [fresh.untouched o member]
      rw [nowhere]
      exact none_reached
    · simp [fresh.nobody_done]

section Follows
variable {start n : Node} {acted : Value → List Value}

theorem Progress.documents_eq (progress : Progress start n acted) :
    n.documents = start.documents.filter fun d => !start.quota.isReachedBy (acted d).length := by
  rw [documents, progress.opened, List.map_map]
  exact List.map_id _

theorem Progress.documents_distinct (progress : Progress start n acted)
    (apart : Distinct start.documents) : Distinct n.documents := by
  rw [progress.documents_eq]
  exact apart.sublist List.filter_sublist

theorem Progress.mem_opened (progress : Progress start n acted) {o : OpenDocument}
    (member : o ∈ n.opened) :
    o.id ∈ start.documents ∧ o.actors = acted o.id ∧
      start.quota.isReachedBy (acted o.id).length = false := by
  rw [progress.opened] at member
  obtain ⟨d, listed, rfl⟩ := List.mem_map.1 member
  obtain ⟨known, short⟩ := List.mem_filter.1 listed
  exact ⟨known, rfl, by simpa using short⟩

theorem Progress.opened_of_short (progress : Progress start n acted) {d : Value}
    (listed : d ∈ start.documents) (short : start.quota.isReachedBy (acted d).length = false) :
    ⟨d, acted d⟩ ∈ n.opened := by
  rw [progress.opened]
  apply List.mem_map_of_mem
  apply List.mem_filter.2
  exact ⟨listed, by rw [short]; rfl⟩

theorem Progress.done_of_reached (progress : Progress start n acted) {d : Value}
    (listed : d ∈ start.documents) (reached : start.quota.isReachedBy (acted d).length = true) :
    d ∈ n.doneDocuments := by
  apply progress.done.symm.subset
  exact List.mem_filter.2 ⟨listed, reached⟩

theorem Progress.nothing_done (progress : Progress start n acted)
    (short : ∀ d ∈ start.documents, start.quota.isReachedBy (acted d).length = false) :
    n.doneDocuments = [] := by
  apply List.perm_nil.1
  apply progress.done.trans
  rw [List.perm_nil, List.filter_eq_nil_iff]
  intro d listed
  simp [short d listed]

theorem Progress.of_mem_progress (progress : Progress start n acted) {entry : List Value}
    (member : entry ∈ n.progress) :
    ∃ d, entry = acted d ∧ start.quota.isReachedBy (acted d).length = false := by
  obtain ⟨o, listed, rfl⟩ := List.mem_map.1 member
  obtain ⟨_, actors, short⟩ := progress.mem_opened listed
  exact ⟨o.id, actors, short⟩

theorem Progress.perm_documents (progress : Progress start n acted) :
    (n.documents ++ n.doneDocuments).Perm start.documents := by
  rw [progress.documents_eq]
  refine (List.Perm.append_left _ progress.done).trans (List.perm_append_comm.trans ?_)
  exact List.filter_append_perm _ _

theorem Progress.contains_done (progress : Progress start n acted) (d : Value) :
    n.doneDocuments.contains d =
      (start.documents.contains d && start.quota.isReachedBy (acted d).length) := by
  rw [contains_perm progress.done, contains_filter]
  intro e _ same
  rw [progress.alike same]

theorem Follows.obstacle?_eq_none_iff (h : Follows start n acted) (apart : Distinct start.documents)
    {actor d : Value} :
    n.obstacle? actor d = none ↔ start.documents.contains d = true ∧
      start.quota.isReachedBy (acted d).length = false ∧ (acted d).contains actor = false := by
  have unopened := h.progress.documents_distinct apart
  rw [Node.obstacle?_eq_none_iff]
  constructor
  · rintro ⟨_, o, found, room, unmet⟩
    obtain ⟨member, same⟩ := (open?_eq_some_iff unopened d o).1 found
    obtain ⟨known, actors, short⟩ := h.progress.mem_opened member
    have here : acted o.id = acted d := h.progress.alike same
    rw [here] at short actors
    rw [actors] at unmet
    exact ⟨(contains_congr _ (same_symm same)).trans (contains_of_mem known), short, unmet⟩
  · rintro ⟨known, short, unmet⟩
    obtain ⟨e, member, same⟩ := exists_same_of_contains known
    rw [h.progress.alike same] at short unmet
    have entry := h.progress.opened_of_short member short
    refine ⟨?_, ⟨e, acted e⟩, (open?_eq_some_iff unopened d _).2 ⟨entry, same_symm same⟩, ?_, unmet⟩
    · rw [h.progress.contains_done, known, h.progress.alike same, short]
      rfl
    · rw [isReachedBy_congr h.quota]
      exact short

theorem Roster.of_eligible (roster : Roster start n acted) {v : Value}
    (eligible : n.isEligible v = true) :
    n.actors.contains v = true ∧ start.actors.contains v = true ∧
      n.doneActors.contains v = false := by
  rw [isEligible, Bool.and_eq_true, Bool.not_eq_true'] at eligible
  obtain ⟨w, member, same⟩ := exists_same_of_contains eligible.1
  refine ⟨eligible.1, ?_, eligible.2⟩
  exact (contains_congr _ same).trans (contains_of_mem (roster.remaining.subset member))

theorem Roster.contains_actors (roster : Roster start n acted) (v : Value) :
    (n.actors ++ n.doneActors).contains v = start.actors.contains v := by
  rw [contains_append, Bool.eq_iff_iff, Bool.or_eq_true]
  refine ⟨fun found => ?_, roster.known v⟩
  rcases found with active | done
  · obtain ⟨w, member, same⟩ := exists_same_of_contains active
    exact (contains_congr _ same).trans (contains_of_mem (roster.remaining.subset member))
  · obtain ⟨w, member, same⟩ := exists_same_of_contains done
    exact (contains_congr _ same).trans (roster.done_known w member)

theorem Roster.isEligible_eq (roster : Roster start n acted) (v : Value) :
    n.isEligible v = (start.actors.contains v && !n.doneActors.contains v) := by
  rw [Bool.eq_iff_iff, Bool.and_eq_true, Bool.not_eq_true']
  constructor
  · intro eligible
    exact (roster.of_eligible eligible).2
  · rintro ⟨known, absent⟩
    rw [isEligible, absent, Bool.not_false, Bool.and_true]
    rcases roster.known v known with active | done
    · exact active
    · rw [absent] at done
      contradiction

theorem Roster.exists_acted (roster : Roster start n acted)
    (least : start.quota.lt (.int 1) = false) {v : Value}
    (done : n.doneActors.contains v = true) :
    ∃ d ∈ start.documents, (acted d).contains v = true := by
  obtain ⟨w, member, same⟩ := exists_same_of_contains done
  have earned := roster.earned w member
  by_contra idle
  have nowhere : start.documents.countP (fun d => (acted d).contains w) = 0 := by
    rw [List.countP_eq_zero]
    intro d listed found
    exact idle ⟨d, listed, (contains_congr _ same).trans found⟩
  rw [nowhere, not_reached_by_zero least] at earned
  contradiction

theorem touch_entry (acted : Value → List Value) (actor : Value) (requested : List Value)
    (d : Value) :
    touch actor requested ⟨d, acted d⟩ = ⟨d, actedAfter acted actor requested d⟩ := by
  unfold touch actedAfter
  split <;> rfl

theorem length_le_actedAfter (acted : Value → List Value) (actor : Value) (requested : List Value)
    (d : Value) : (acted d).length ≤ (actedAfter acted actor requested d).length := by
  unfold actedAfter
  split <;> simp

theorem contains_actedAfter (acted : Value → List Value) (actor : Value) (requested : List Value)
    (d v : Value) :
    (actedAfter acted actor requested d).contains v =
      ((acted d).contains v || (requested.contains d && v == actor)) := by
  unfold actedAfter
  split
  · rename_i asked
    rw [contains_append, contains_singleton, asked, Bool.true_and]
  · rename_i unasked
    rw [Bool.not_eq_true] at unasked
    rw [unasked, Bool.false_and, Bool.or_false]

theorem filter_short_grown (quota : Value) (documents : List Value)
    {before after : Value → List Value} (grows : ∀ d, (before d).length ≤ (after d).length) :
    (documents.filter fun d => !quota.isReachedBy (before d).length).filter
        (fun d => !quota.isReachedBy (after d).length) =
      documents.filter fun d => !quota.isReachedBy (after d).length := by
  rw [List.filter_filter]
  refine List.filter_congr fun d _ => ?_
  cases short : quota.isReachedBy (after d).length with
  | true => rfl
  | false => rw [not_reached_of_le short (grows d)]; rfl

theorem perm_filter_reached (quota : Value) (documents : List Value)
    {before after : Value → List Value} (grows : ∀ d, (before d).length ≤ (after d).length) :
    ((documents.filter fun d => quota.isReachedBy (before d).length) ++
      (documents.filter fun d => !quota.isReachedBy (before d).length).filter
        fun d => quota.isReachedBy (after d).length).Perm
      (documents.filter fun d => quota.isReachedBy (after d).length) := by
  have split := List.filter_append_perm (fun d => quota.isReachedBy (before d).length)
    (documents.filter fun d => quota.isReachedBy (after d).length)
  have old : (documents.filter fun d => quota.isReachedBy (after d).length).filter
      (fun d => quota.isReachedBy (before d).length) =
        documents.filter fun d => quota.isReachedBy (before d).length := by
    rw [List.filter_filter]
    refine List.filter_congr fun d _ => ?_
    cases full : quota.isReachedBy (before d).length with
    | false => rfl
    | true => rw [isReachedBy_mono full (grows d)]; rfl
  rw [old, List.filter_comm] at split
  exact split

section Record
variable (h : Follows start n acted) (apart : Distinct start.documents) {actor : Value}
  (eligible : n.isEligible actor = true) {requested : List Value}
  (clear : ∀ d ∈ requested, n.obstacle? actor d = none)
include h

theorem Follows.touched_entries :
    n.opened.map (touch actor requested) =
      (start.documents.filter fun d => !start.quota.isReachedBy (acted d).length).map
        fun d => ⟨d, actedAfter acted actor requested d⟩ := by
  rw [h.progress.opened, List.map_map]
  exact List.map_congr_left fun d _ => touch_entry acted actor requested d

theorem Follows.earned_by_retiring
    (goes : n.retires actor (n.opened.map (touch actor requested)) = true) :
    start.quota.isReachedBy (start.documents.countP fun d =>
      (actedAfter acted actor requested d).contains actor) = true := by
  rw [retires, isReachedBy_congr h.quota, h.touched_entries, List.countP_map] at goes
  exact isReachedBy_mono goes List.filter_sublist.countP_le

include apart

theorem Follows.eligible_before {v : Value}
    (after : (n.record actor requested).isEligible v = true) : n.isEligible v = true := by
  have unopened := h.progress.documents_distinct apart
  rw [isEligible, Bool.and_eq_true, Bool.not_eq_true'] at after ⊢
  rw [record_actors unopened, record_doneActors unopened] at after
  split at after
  · obtain ⟨w, member, same⟩ := exists_same_of_contains after.1
    have absent := after.2
    rw [contains_append, Bool.or_eq_false_iff] at absent
    have listed := contains_of_mem (List.mem_filter.1 member).1
    exact ⟨(contains_congr _ same).trans listed, absent.1⟩
  · exact after

theorem Follows.count_after {v : Value}
    (after : (n.record actor requested).isEligible v = true) :
    start.quota.isReachedBy ((n.record actor requested).opened.countP (·.actors.contains v)) =
      false := by
  have unopened := h.progress.documents_distinct apart
  have fewer : (n.record actor requested).opened.countP (·.actors.contains v) ≤
      (n.opened.map (touch actor requested)).countP (·.actors.contains v) := by
    rw [record_opened unopened]
    exact List.filter_sublist.countP_le
  refine not_reached_of_le ?_ fewer
  by_cases same : (v == actor) = true
  · have stays : n.retires actor (n.opened.map (touch actor requested)) = false := by
      rw [← Bool.not_eq_true]
      intro goes
      rw [isEligible, record_doneActors unopened, if_pos goes, contains_append, contains_singleton,
        same] at after
      simp at after
    rw [retires, isReachedBy_congr h.quota] at stays
    simpa only [contains_congr _ same] using stays
  · have untouched : (n.opened.map (touch actor requested)).countP (·.actors.contains v) =
        n.opened.countP (·.actors.contains v) := by
      rw [List.countP_map]
      refine List.countP_congr fun o _ => ?_
      rw [Bool.not_eq_true] at same
      simp only [Function.comp_apply, contains_touch, same, Bool.and_false, Bool.or_false]
    rw [untouched]
    exact h.roster.below v (h.eligible_before apart after)

include clear in
theorem Follows.of_requested {d : Value} (asked : requested.contains d = true) :
    start.documents.contains d = true ∧ start.quota.isReachedBy (acted d).length = false ∧
      (acted d).contains actor = false := by
  obtain ⟨e, member, same⟩ := exists_same_of_contains asked
  have facts := (h.obstacle?_eq_none_iff apart).1 (clear e member)
  rwa [← h.progress.alike same, ← contains_congr _ same] at facts

include eligible

theorem Follows.roster_record :
    Roster start (n.record actor requested) (actedAfter acted actor requested) := by
  have unopened := h.progress.documents_distinct apart
  obtain ⟨_, known, absent⟩ := h.roster.of_eligible eligible
  have grown : ∀ v, start.documents.countP (fun d => (acted d).contains v) ≤
      start.documents.countP fun d => (actedAfter acted actor requested d).contains v := by
    intro v
    refine List.countP_mono_left fun d _ before => ?_
    rw [contains_actedAfter, before, Bool.true_or]
  constructor
  case below => exact fun v after => h.count_after apart after
  case remaining =>
    rw [record_actors unopened]
    split
    · exact List.filter_sublist.trans h.roster.remaining
    · exact h.roster.remaining
  case known =>
    intro v listed
    rw [record_actors unopened, record_doneActors unopened]
    split
    · rw [contains_append, contains_singleton, Bool.or_eq_true]
      rcases h.roster.known v listed with active | done
      · obtain ⟨w, member, same⟩ := exists_same_of_contains active
        by_cases goes : w.equals actor = true
        · rw [equals, Bool.and_eq_true] at goes
          exact Or.inr (Or.inr (same_trans same goes.1))
        · have stays : w ∈ n.actors.filter fun a => !(a.equals actor) :=
            List.mem_filter.2 ⟨member, by simpa using goes⟩
          exact Or.inl ((contains_congr _ same).trans (contains_of_mem stays))
      · exact Or.inr (Or.inl done)
    · exact h.roster.known v listed
  case done_known =>
    intro v member
    rw [record_doneActors unopened] at member
    split at member
    · rcases List.mem_append.1 member with old | new
      · exact h.roster.done_known v old
      · rw [List.mem_singleton.1 new]
        exact known
    · exact h.roster.done_known v member
  case done_distinct =>
    rw [record_doneActors unopened]
    split
    · exact distinct_append_one h.roster.done_distinct absent
    · exact h.roster.done_distinct
  case apart =>
    intro v member defined
    rw [record_actors unopened] at member
    rw [record_doneActors unopened]
    split at member
    · rename_i goes
      obtain ⟨listed, differs⟩ := List.mem_filter.1 member
      rw [equals_of_defined defined, Bool.not_eq_true'] at differs
      rw [if_pos goes, contains_append, contains_singleton, differs,
        h.roster.apart v listed defined, Bool.or_false]
    · rename_i stays
      rw [if_neg stays]
      exact h.roster.apart v member defined
  case earned =>
    intro v member
    rw [record_doneActors unopened] at member
    split at member
    · rename_i goes
      rcases List.mem_append.1 member with old | new
      · exact isReachedBy_mono (h.roster.earned v old) (grown v)
      · rw [List.mem_singleton.1 new]
        exact h.earned_by_retiring goes
    · exact isReachedBy_mono (h.roster.earned v member) (grown v)

include clear

theorem Follows.progress_record :
    Progress start (n.record actor requested) (actedAfter acted actor requested) := by
  have grows := length_le_actedAfter acted actor requested
  have known := (h.roster.of_eligible eligible).2.1
  have unopened := h.progress.documents_distinct apart
  have same_quota : ∀ count, n.quota.isReachedBy count = start.quota.isReachedBy count :=
    isReachedBy_congr h.quota
  constructor
  case alike =>
    intro d e same
    rw [actedAfter, actedAfter, contains_congr _ same, h.progress.alike same]
  case opened =>
    simp only [record_opened unopened, h.touched_entries, same_quota, List.filter_map]
    exact congrArg _ (filter_short_grown start.quota start.documents grows)
  case done =>
    simp only [record_doneDocuments unopened, h.touched_entries, same_quota, List.filter_map,
      List.map_map]
    refine List.Perm.trans ?_ (perm_filter_reached start.quota start.documents grows)
    refine h.progress.done.append (List.Perm.of_eq ?_)
    exact List.map_id _
  case distinct =>
    intro d
    unfold actedAfter
    split
    · rename_i asked
      exact distinct_append_one (h.progress.distinct d) (h.of_requested apart clear asked).2.2
    · exact h.progress.distinct d
  case members =>
    intro d v member
    unfold actedAfter at member
    split at member
    · rcases List.mem_append.1 member with old | new
      · exact h.progress.members d v old
      · rw [List.mem_singleton.1 new]
        exact known
    · exact h.progress.members d v member
  case within =>
    intro d some
    unfold actedAfter at some
    split at some
    · rename_i asked
      exact (h.of_requested apart clear asked).1
    · exact h.progress.within d some
  case unfilled =>
    intro d
    unfold actedAfter
    split
    · rename_i asked
      rw [List.length_append, List.length_singleton, Nat.add_sub_cancel]
      exact (h.of_requested apart clear asked).2.1
    · exact h.progress.unfilled d

theorem Follows.record_follows :
    Follows start (n.record actor requested) (actedAfter acted actor requested) :=
  ⟨h.step, h.role, h.tag, h.quota, h.progress_record apart eligible clear,
    h.roster_record apart eligible⟩

end Record

end Follows

end Node
end SignatureRouting
