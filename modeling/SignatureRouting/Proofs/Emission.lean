import Mathlib.Data.List.Nodup
import SignatureRouting.Proofs.Coherence
import SignatureRouting.Proofs.Run
import SignatureRouting.Workflow

/-!
What a successful build has checked. Every planned step has distinct actors and a quota between one
and their number, so every emitted node is fresh and carries all documents of the workflow. Nodes
of one role share no actor, and nothing that a node asks for is in the history the build started
from.
-/
namespace SignatureRouting
open Value

namespace Cardinality

def IsIntegral : Cardinality → Prop
  | one => True
  | all => True
  | exact count => count.IsIntegral

theorem resolve_isIntegral {c : Cardinality} (integral : c.IsIntegral) (participants : Int) :
    (c.resolve (.int participants)).IsIntegral := by
  cases c with
  | one => exact isIntegral_int 1
  | all => exact isIntegral_int participants
  | exact count => exact integral

theorem of_byDefault {role : StepRole} {tag : Except Overlong String} {c : Cardinality}
    (ok : byDefault role tag = .ok c) : c = one ∨ c = all := by
  unfold byDefault at ok
  split at ok
  · obtain ⟨tag, _, same⟩ := bind_eq_ok.1 ok
    obtain rfl := Except.ok.inj same
    split
    · exact Or.inl rfl
    · exact Or.inr rfl
  · exact Or.inl (Except.ok.inj ok).symm

end Cardinality

def Step.IsIntegral (step : Step) : Prop :=
  ∀ c, step.cardinality.parse = .ok (some c) → c.IsIntegral

def StepItem.IsIntegral : StepItem → Prop
  | step s => s.IsIntegral
  | other _ => True

namespace Setting

theorem role_eq_ok {setting : Setting} {place : Nat} {step : Step} {role : StepRole}
    (ok : setting.role place step = .ok role) : setting.resolver.resolve step.process = .found role ∧
      step.tag? = .ok step.tag ∧ step.tag ≠ Tag.sign := by
  obtain ⟨tag, written, ok⟩ := bind_eq_ok.1 ok
  have written := mapError_eq_ok.1 written
  obtain rfl := Step.tag_of_tag? written
  split at ok
  · contradiction
  · contradiction
  · rename_i r found
    split at ok
    · contradiction
    · rename_i other
      obtain rfl := Except.ok.inj ok
      exact ⟨found, written, other⟩

theorem planStep_eq_ok {setting : Setting} {place : Nat} {step : Step} {plan : StepPlan}
    (ok : setting.planStep place step = .ok plan) :
    ∃ role actors quota, setting.role place step = .ok role ∧
      (role = .standard .signature → setting.checkSignatureType place step = .ok ()) ∧
        setting.actors place step role = .ok actors ∧
          Setting.quota place step role actors.length = .ok quota ∧
            plan = ⟨place, step.tag, role, actors, quota⟩ := by
  obtain ⟨role, resolved, ok⟩ := bind_eq_ok.1 ok
  have checked : (role = .standard .signature → setting.checkSignatureType place step = .ok ()) ∧
      (do
        let actors ← setting.actors place step role
        let quota ← Setting.quota place step role actors.length
        return (⟨place, step.tag, role, actors, quota⟩ : StepPlan)) = .ok plan := by
    split at ok
    · obtain ⟨_, typed, ok⟩ := bind_eq_ok.1 ok
      exact ⟨fun _ => typed, ok⟩
    · rename_i other
      exact ⟨fun is => absurd is other, ok⟩
  obtain ⟨typed, ok⟩ := checked
  obtain ⟨actors, listed, ok⟩ := bind_eq_ok.1 ok
  obtain ⟨quota, counted, ok⟩ := bind_eq_ok.1 ok
  exact ⟨role, actors, quota, resolved, typed, listed, counted, (Except.ok.inj ok).symm⟩

theorem exists_of_participant? {setting : Setting} {reference : Value} {p : Participant}
    (known : setting.participant? reference = some p) :
    ∃ entry ∈ setting.participants, entry.2.actor = p.actor := by
  unfold participant? at known
  split at known
  · obtain ⟨entry, found, rfl⟩ := Option.map_eq_some_iff.1 known
    exact ⟨entry, List.mem_of_find?_eq_some found, rfl⟩
  · contradiction

theorem actorsAfter_extends {setting : Setting} {place : Nat} {role : StepRole} {tag : String}
    {before references actors : List Value}
    (ok : setting.actorsAfter place role tag before references = .ok actors) :
    (Distinct before → Distinct actors) ∧
      actors.length = before.length + references.length := by
  induction references generalizing before with
  | nil =>
    obtain rfl := Except.ok.inj ok
    exact ⟨id, rfl⟩
  | cons reference rest ih =>
    rw [actorsAfter] at ok
    split at ok
    · contradiction
    · split at ok
      · contradiction
      · split at ok
        · contradiction
        · rename_i p _ unused
          split at ok
          · contradiction
          · rw [Bool.not_eq_true] at unused
            obtain ⟨distinct, count⟩ := ih ok
            refine ⟨fun apart => distinct (distinct_append_one apart unused), ?_⟩
            rw [List.length_append, List.length_singleton] at count
            rw [List.length_cons]
            omega

theorem entitled_of_actorsAfter {setting : Setting} {place : Nat} {role : StepRole} {tag : String}
    {before references actors : List Value}
    (ok : setting.actorsAfter place role tag before references = .ok actors) {v : Value}
    (member : v ∈ actors) : v ∈ before ∨ ∃ reference ∈ references, ∃ p,
      setting.participant? reference = some p ∧ p.actor = v ∧
        setting.resolver.isEntitled role (.text tag) p.roleTags = true := by
  induction references generalizing before with
  | nil =>
    obtain rfl := Except.ok.inj ok
    exact Or.inl member
  | cons reference rest ih =>
    rw [actorsAfter] at ok
    split at ok
    · contradiction
    · split at ok
      · contradiction
      · rename_i p known
        split at ok
        · contradiction
        · split at ok
          · contradiction
          · rename_i entitled
            rw [Bool.not_eq_true, Bool.not_eq_false'] at entitled
            rcases ih ok with earlier | ⟨other, among, named⟩
            · rcases List.mem_append.1 earlier with old | new
              · exact Or.inl old
              · exact Or.inr ⟨reference, List.mem_cons_self, p, known,
                  (List.mem_singleton.1 new).symm, entitled⟩
            · exact Or.inr ⟨other, List.mem_cons_of_mem _ among, named⟩

theorem entitled_of_actors {setting : Setting} {place : Nat} {step : Step} {role : StepRole}
    {actors : List Value} (ok : setting.actors place step role = .ok actors) {v : Value}
    (member : v ∈ actors) :
    ∃ references, step.participants = some references ∧ ∃ reference ∈ references, ∃ p,
      setting.participant? reference = some p ∧ p.actor = v ∧
        setting.resolver.isEntitled role (.text step.tag) p.roleTags = true := by
  unfold Setting.actors at ok
  split at ok
  · contradiction
  · contradiction
  · rename_i references _ given
    obtain ⟨found, after, ok⟩ := bind_eq_ok.1 ok
    split at ok
    · obtain rfl := Except.ok.inj ok
      exact ⟨references, given,
        (entitled_of_actorsAfter after member).resolve_left List.not_mem_nil⟩
    · contradiction

theorem actors_eq_ok {setting : Setting} {place : Nat} {step : Step} {role : StepRole}
    {actors : List Value} (ok : setting.actors place step role = .ok actors) :
    Distinct actors ∧ 0 < actors.length ∧
      ∀ v ∈ actors, ∃ p ∈ setting.participants, p.2.actor = v := by
  unfold Setting.actors at ok
  split at ok
  · contradiction
  · contradiction
  · rename_i references some _
    obtain ⟨found, after, ok⟩ := bind_eq_ok.1 ok
    split at ok
    · obtain rfl := Except.ok.inj ok
      obtain ⟨distinct, count⟩ := actorsAfter_extends after
      have given := List.length_pos_iff.2 some
      refine ⟨distinct distinct_nil, by omega, fun v member => ?_⟩
      rcases entitled_of_actorsAfter after member with nowhere | ⟨_, _, p, known, rfl, _⟩
      · contradiction
      · exact exists_of_participant? known
    · contradiction

theorem quota_eq_ok {place : Nat} {step : Step} {role : StepRole} {actors : Nat} {quota : Value}
    (ok : Setting.quota place step role actors = .ok quota) :
    step.quota role (.int actors) = .ok quota ∧ quota.isNumber = true ∧
      quotaFits step.tag quota actors = true := by
  obtain ⟨q, resolved, ok⟩ := bind_eq_ok.1 ok
  have settled : step.quota role (.int actors) = .ok q := by
    cases parsed : step.quota role (.int actors) with
    | ok r =>
      rw [parsed] at resolved
      exact congrArg _ (Except.ok.inj resolved)
    | error e =>
      rw [parsed] at resolved
      contradiction
  split at ok
  · contradiction
  · rename_i number
    split at ok
    · rename_i fits
      obtain rfl := Except.ok.inj ok
      exact ⟨settled, by simpa using number, fits⟩
    · contradiction

end Setting

theorem Step.quota_eq_ok {step : Step} {role : StepRole} {participants quota : Value}
    (ok : step.quota role participants = .ok quota) :
    ∃ c, quota = c.resolve participants ∧ (step.cardinality.parse = .ok (some c) ∨
      step.cardinality.parse = .ok none ∧ (c = .one ∨ c = .all)) := by
  obtain ⟨parsed, read, ok⟩ := bind_eq_ok.1 ok
  cases parsed with
  | some c => exact ⟨c, (Except.ok.inj ok).symm, Or.inl read⟩
  | none =>
    obtain ⟨c, usual, same⟩ := bind_eq_ok.1 ok
    exact ⟨c, (Except.ok.inj same).symm, Or.inr ⟨read, Cardinality.of_byDefault usual⟩⟩

theorem Step.quota_isIntegral {step : Step} (integral : step.IsIntegral) {role : StepRole}
    {participants : Int} {quota : Value} (ok : step.quota role (.int participants) = .ok quota) :
    quota.IsIntegral := by
  obtain ⟨c, rfl, read | ⟨_, rfl | rfl⟩⟩ := Step.quota_eq_ok ok
  · exact Cardinality.resolve_isIntegral (integral c read) _
  · exact isIntegral_int 1
  · exact isIntegral_int participants

structure StepPlan.Sound (plan : StepPlan) : Prop where
  distinct : Distinct plan.actors
  some : 0 < plan.actors.length
  countable : plan.quota.isNumber = true
  least : plan.quota.lt (.int 1) = false
  most : (Value.int plan.actors.length).lt plan.quota = false

theorem Setting.plan_sound {setting : Setting} {place : Nat} {item : StepItem} {plan : StepPlan}
    (ok : setting.plan place item = .ok plan) :
    plan.Sound ∧ (item.IsIntegral → plan.quota.IsIntegral) ∧
      ∀ v ∈ plan.actors, ∃ p ∈ setting.participants, p.2.actor = v := by
  cases item with
  | other value => contradiction
  | step step =>
    obtain ⟨role, actors, quota, _, _, listed, counted, rfl⟩ := planStep_eq_ok ok
    obtain ⟨settled, number, fits⟩ := quota_eq_ok counted
    simp only [quotaFits, Bool.and_eq_true, Bool.not_eq_true'] at fits
    obtain ⟨distinct, some, named⟩ := actors_eq_ok listed
    exact ⟨⟨distinct, some, number, fits.1.1, fits.1.2⟩,
      fun integral => Step.quota_isIntegral integral settled, named⟩

structure GoodDocuments (documents : List Value) : Prop where
  some : documents ≠ []
  distinct : Distinct documents
  identifiers : ∀ d ∈ documents, d.isIdentifier = true

namespace NodeSpec

theorem node_documents (spec : NodeSpec) : spec.node.documents = spec.documents := by
  rw [Node.documents, node, List.map_map]
  exact List.map_id _

theorem node_fresh {spec : NodeSpec} {place : Int} {word : String} (step : spec.step = .int place)
    (tag : spec.tag = .text word) (somebody : 0 < spec.actors.length)
    (actors : Distinct spec.actors) (documents : GoodDocuments spec.documents)
    (countable : spec.quota.isNumber = true) (least : spec.quota.lt (.int 1) = false)
    (most : (Value.int spec.actors.length).lt spec.quota = false) : spec.node.Fresh where
  step := ⟨place, step⟩
  tag := ⟨word, tag⟩
  somebody := somebody
  something := spec.node_documents ▸ documents.some
  actors_distinct := actors
  documents_distinct := spec.node_documents ▸ documents.distinct
  identifiers := spec.node_documents ▸ documents.identifiers
  countable := countable
  least := least
  most := most
  untouched o member := by
    obtain ⟨d, _, rfl⟩ := List.mem_map.1 member
    rfl
  nobody_done := rfl
  nothing_done := rfl

end NodeSpec

theorem int_isNumber (n : Int) : (Value.int n).isNumber = true := by
  simp [Value.isNumber, Value.atom?, Value.key]

namespace StepPlan

/-- The specifications of one planned step. Between them they have its actors, in their order. -/
structure Emits (plan : StepPlan) (documents : List Value) (role : Role) (specs : List NodeSpec) :
    Prop where
  actors : specs.flatMap (·.actors) = plan.actors
  roles : ∀ spec ∈ specs, spec.role = role
  documents : ∀ spec ∈ specs, spec.documents = documents
  fresh : ∀ spec ∈ specs, spec.node.Fresh
  integral : plan.quota.IsIntegral → ∀ spec ∈ specs, spec.quota.IsIntegral

theorem emits_one {plan : StepPlan} (sound : plan.Sound) {documents : List Value}
    (good : GoodDocuments documents) (role : Role) {quota : Value}
    (countable : quota.isNumber = true) (least : quota.lt (.int 1) = false)
    (most : (Value.int plan.actors.length).lt quota = false)
    (integral : plan.quota.IsIntegral → quota.IsIntegral) :
    plan.Emits documents role
      [⟨.int plan.place, role, .text plan.tag, plan.actors, documents, quota⟩] := by
  refine ⟨by simp, by simp, by simp, ?_, by simpa using integral⟩
  intro spec member
  obtain rfl := List.mem_singleton.1 member
  exact NodeSpec.node_fresh rfl rfl sound.some sound.distinct good countable least most

theorem emits_each {plan : StepPlan} {documents : List Value} (good : GoodDocuments documents)
    (role : Role) :
    plan.Emits documents role (plan.actors.map fun actor =>
      ⟨.int plan.place, role, .text plan.tag, [actor], documents, .int 1⟩) := by
  refine ⟨by simp [List.flatMap_map], by simp, by simp, ?_, ?_⟩
  · intro spec member
    obtain ⟨actor, _, rfl⟩ := List.mem_map.1 member
    exact NodeSpec.node_fresh rfl rfl Nat.one_pos (List.nodup_singleton _) good
      (int_isNumber 1) (int_lt_int 1 1) (int_lt_int 1 1)
  · intro _ spec member
    obtain ⟨actor, _, rfl⟩ := List.mem_map.1 member
    exact isIntegral_int 1

theorem emits_of_specs {plan : StepPlan} (sound : plan.Sound) {documents : List Value}
    (good : GoodDocuments documents) {emitted : List NodeSpec}
    (ok : plan.specs documents = .ok emitted) :
    ∃ role, plan.role = .standard role ∧ plan.Emits documents role emitted := by
  unfold specs at ok
  split at ok
  · rename_i is_role
    obtain rfl := Except.ok.inj ok
    exact ⟨_, is_role, emits_one sound good _ sound.countable sound.least sound.most id⟩
  · rename_i is_role
    split at ok
    · obtain rfl := Except.ok.inj ok
      exact ⟨_, is_role, emits_one sound good _ sound.countable sound.least sound.most id⟩
    · split at ok
      · obtain rfl := Except.ok.inj ok
        exact ⟨_, is_role, emits_each good _⟩
      · contradiction
  · rename_i is_role
    obtain rfl := Except.ok.inj ok
    have least : (Value.int plan.actors.length).lt (.int 1) = false := by
      have some := sound.some
      rw [int_lt_int, decide_eq_false_iff_not]
      omega
    have most : (Value.int plan.actors.length).lt (.int plan.actors.length) = false := by
      rw [int_lt_int, decide_eq_false_iff_not]
      omega
    exact ⟨_, is_role, emits_one sound good _ (int_isNumber _) least most
      fun _ => isIntegral_int _⟩
  · contradiction

section Emits
variable {plan : StepPlan} {documents : List Value} {role : Role} {emitted : List NodeSpec}

theorem Emits.contains_actor (emits : plan.Emits documents role emitted) (a : Value) :
    plan.actors.contains a = true ↔ ∃ spec ∈ emitted, spec.actors.contains a = true := by
  rw [← emits.actors, contains_iff_key_mem, List.map_flatMap, List.mem_flatMap]
  simp only [contains_iff_key_mem]

theorem Emits.apart (emits : plan.Emits documents role emitted) (distinct : Distinct plan.actors) :
    emitted.Pairwise fun s t => ∀ a, s.actors.contains a = true → t.actors.contains a = false := by
  rw [← emits.actors, Distinct, List.map_flatMap, List.nodup_flatMap] at distinct
  refine distinct.2.imp fun {s t} disjoint a first => ?_
  rw [← Bool.not_eq_true, contains_iff_key_mem]
  exact fun second => disjoint ((contains_iff_key_mem ..).1 first) second

end Emits

end StepPlan

namespace Draft

theorem addStep_eq_ok {setting : Setting} {documents : List Value} {place : Nat} {item : StepItem}
    {before after : Draft} (ok : before.addStep setting documents place item = .ok after) :
    ∃ plan history specs, setting.plan place item = .ok plan ∧
      History.carryOut place plan.role.recorded plan.actors documents before.history = .ok history ∧
        plan.specs documents = .ok specs ∧
          after = ⟨unique (before.actors ++ plan.actors), history,
            before.nodes ++ specs.map NodeSpec.node⟩ := by
  obtain ⟨plan, planned, ok⟩ := bind_eq_ok.1 ok
  obtain ⟨history, carried, ok⟩ := bind_eq_ok.1 ok
  obtain ⟨specs, emitted, ok⟩ := bind_eq_ok.1 ok
  exact ⟨plan, history, specs, planned, carried, emitted, (Except.ok.inj ok).symm⟩

theorem addSteps_keeps {setting : Setting} {documents : List Value} {P : Draft → Prop}
    {items : List StepItem} {first : Nat} {before after : Draft}
    (step : ∀ {place item d e}, item ∈ items → P d →
      Draft.addStep d setting documents place item = .ok e → P e)
    (start : P before) (ok : addSteps setting documents first items before = .ok after) :
    P after := by
  induction items generalizing first before with
  | nil =>
    obtain rfl := Except.ok.inj ok
    exact start
  | cons item rest ih =>
    rw [addSteps] at ok
    obtain ⟨next, added, ok⟩ := bind_eq_ok.1 ok
    exact ih (fun member => step (List.mem_cons_of_mem _ member))
      (step List.mem_cons_self start added) ok

/-- The nodes of a draft fit together, and its history is the one it started from with every actor
of every node recorded on all documents. -/
structure Sound (start : History) (documents : List Value) (draft : Draft) : Prop where
  fresh : ∀ n ∈ draft.nodes, n.Fresh
  shared : ∀ n ∈ draft.nodes, n.documents = documents
  records : ∀ d a r, draft.history.Records d a r ↔ start.Records d a r ∨
    documents.contains d = true ∧ ∃ n ∈ draft.nodes, n.role = r ∧ n.actors.contains a = true
  apart : draft.nodes.Pairwise fun m n => m.role = n.role →
    ∀ a, m.actors.contains a = true → n.actors.contains a = false
  unrecorded : ∀ n ∈ draft.nodes, ∀ d, documents.contains d = true →
    ∀ a, n.actors.contains a = true → ¬ start.Records d a n.role

theorem start_sound (history : History) (documents : List Value) :
    (start history).Sound history documents := by
  refine ⟨by simp [start], by simp [start], ?_, by simp [start], by simp [start]⟩
  intro d a r
  simp [start]

theorem addStep_sound {setting : Setting} {documents : List Value} (good : GoodDocuments documents)
    {history : History} {place : Nat} {item : StepItem} {before after : Draft}
    (sound : before.Sound history documents)
    (ok : before.addStep setting documents place item = .ok after) :
    after.Sound history documents := by
  obtain ⟨plan, recorded, specs, planned, carried, emitted, rfl⟩ := addStep_eq_ok ok
  have plan_sound := (Setting.plan_sound planned).1
  obtain ⟨role, is_role, emits⟩ := StepPlan.emits_of_specs plan_sound good emitted
  have done := History.carriedOut_of_carryOut carried
  rw [is_role] at done
  have new_node : ∀ {n : Node}, n ∈ specs.map NodeSpec.node →
      n.Fresh ∧ n.role = role ∧ n.documents = documents ∧
      ∀ a, n.actors.contains a = true → plan.actors.contains a = true := by
    intro n member
    obtain ⟨spec, listed, rfl⟩ := List.mem_map.1 member
    exact ⟨emits.fresh spec listed, emits.roles spec listed,
      spec.node_documents.trans (emits.documents spec listed),
      fun a found => (emits.contains_actor a).2 ⟨spec, listed, found⟩⟩
  have unrecorded : ∀ d, documents.contains d = true → ∀ a, plan.actors.contains a = true →
      ¬ before.history.Records d a role := by
    intro d known a listed recorded
    obtain ⟨e, member, same⟩ := exists_same_of_contains known
    obtain ⟨b, among, equal⟩ := exists_same_of_contains listed
    exact done.unrecorded e member b among ((History.records_congr _ same equal role).1 recorded)
  constructor
  case fresh =>
    intro n member
    rcases List.mem_append.1 member with old | new
    · exact sound.fresh n old
    · exact (new_node new).1
  case shared =>
    intro n member
    rcases List.mem_append.1 member with old | new
    · exact sound.shared n old
    · exact (new_node new).2.2.1
  case records =>
    intro d a r
    rw [done.records, sound.records, emits.contains_actor]
    constructor
    · rintro ((from_start | ⟨known, n, old, is, listed⟩) | ⟨known, ⟨spec, new, listed⟩, rfl⟩)
      · exact Or.inl from_start
      · exact Or.inr ⟨known, n, List.mem_append_left _ old, is, listed⟩
      · exact Or.inr ⟨known, spec.node, List.mem_append_right _ (List.mem_map_of_mem new),
          emits.roles spec new, listed⟩
    · rintro (from_start | ⟨known, n, member, is, listed⟩)
      · exact Or.inl (Or.inl from_start)
      · rcases List.mem_append.1 member with old | new
        · exact Or.inl (Or.inr ⟨known, n, old, is, listed⟩)
        · obtain ⟨spec, among, rfl⟩ := List.mem_map.1 new
          exact Or.inr ⟨known, ⟨spec, among, listed⟩, is.symm.trans (emits.roles spec among)⟩
  case apart =>
    refine List.pairwise_append.2 ⟨sound.apart, ?_, ?_⟩
    · refine List.pairwise_map.2 ((emits.apart plan_sound.distinct).imp ?_)
      exact fun apart _ => apart
    · intro m old n new same_role a listed
      rw [← Bool.not_eq_true]
      intro again
      obtain ⟨_, is, _, actors⟩ := new_node new
      obtain ⟨d, member⟩ := List.exists_mem_of_ne_nil _ good.some
      have known := contains_of_mem member
      exact unrecorded d known a (actors a again)
        ((sound.records d a role).2 (Or.inr ⟨known, m, old, same_role.trans is, listed⟩))
  case unrecorded =>
    intro n member d known a listed from_start
    rcases List.mem_append.1 member with old | new
    · exact sound.unrecorded n old d known a listed from_start
    · obtain ⟨_, is, _, actors⟩ := new_node new
      exact unrecorded d known a (actors a listed)
        ((sound.records d a role).2 (Or.inl (is ▸ from_start)))

end Draft

namespace Workflow

theorem distinct_of_checkDocuments {seen documents : List Value}
    (ok : checkDocuments seen documents = .ok ()) :
    Distinct documents ∧ ∀ d ∈ documents, d.isIdentifier = true ∧ seen.contains d = false := by
  induction documents generalizing seen with
  | nil => exact ⟨distinct_nil, by simp⟩
  | cons document rest ih =>
    rw [checkDocuments] at ok
    split at ok
    · contradiction
    · rename_i identifier
      split at ok
      · contradiction
      · rename_i unseen
        rw [Bool.not_eq_true] at unseen
        obtain ⟨distinct, later⟩ := ih ok
        refine ⟨distinct_cons.2 ⟨?_, distinct⟩, ?_⟩
        · rw [← Bool.not_eq_true]
          intro again
          obtain ⟨e, member, same⟩ := exists_same_of_contains again
          have absent := (later e member).2
          rw [contains_append, contains_singleton, same_symm same, Bool.or_true] at absent
          contradiction
        · intro d member
          rcases List.mem_cons.1 member with rfl | among
          · exact ⟨by simpa using identifier, unseen⟩
          · have absent := (later d among).2
            rw [contains_append, Bool.or_eq_false_iff] at absent
            exact ⟨(later d among).1, absent.1⟩

theorem good_of_documentIds {documents : Option (List Value)} {ids : List Value}
    (ok : documentIds documents = .ok ids) : documents = some ids ∧ GoodDocuments ids := by
  unfold documentIds at ok
  split at ok
  · contradiction
  · contradiction
  · rename_i given some
    cases checked : checkDocuments [] given with
    | error e =>
      rw [checked] at ok
      contradiction
    | ok u =>
      rw [checked] at ok
      obtain rfl := Except.ok.inj ok
      obtain ⟨distinct, identifiers⟩ := distinct_of_checkDocuments checked
      exact ⟨rfl, some, distinct, fun d member => (identifiers d member).1⟩

theorem build_eq_ok {setting : Setting} {history : History} {steps : Option (List StepItem)}
    {documents : Option (List Value)} {w : Workflow}
    (ok : build setting history steps documents = .ok w) :
    ∃ ids items draft, documents = some ids ∧ GoodDocuments ids ∧ steps = some items ∧
      items ≠ [] ∧ Draft.addSteps setting ids 0 items (.start history) = .ok draft ∧
        w = ⟨draft.actors, ids, ⟨draft.nodes, 0⟩⟩ := by
  obtain ⟨ids, checked, ok⟩ := bind_eq_ok.1 ok
  obtain ⟨given, good⟩ := good_of_documentIds checked
  split at ok
  · contradiction
  · contradiction
  · rename_i items some _
    obtain ⟨draft, added, ok⟩ := bind_eq_ok.1 ok
    exact ⟨ids, items, draft, given, good, rfl, some, added, (Except.ok.inj ok).symm⟩

section Built
variable {setting : Setting} {history : History} {steps : Option (List StepItem)}
  {documents : Option (List Value)} {w : Workflow}
  (built : build setting history steps documents = .ok w)
include built

theorem draft_of_build :
    ∃ draft : Draft, w.automaton = ⟨draft.nodes, 0⟩ ∧ GoodDocuments w.documents ∧
      draft.Sound history w.documents := by
  obtain ⟨ids, items, draft, _, good, _, _, added, rfl⟩ := build_eq_ok built
  have sound := Draft.addSteps_keeps (P := fun d => d.Sound history ids)
    (fun _ sound ok => Draft.addStep_sound good sound ok) (Draft.start_sound history ids) added
  exact ⟨draft, rfl, good, sound⟩

theorem fresh_of_build : AllFresh w.automaton := by
  obtain ⟨draft, same, _, sound⟩ := draft_of_build built
  rw [same]
  exact sound.fresh

theorem start_of_build :
    w.automaton.index = 0 ∧ ∀ s ∈ w.automaton.nodes, s.documents = w.documents := by
  obtain ⟨draft, same, _, sound⟩ := draft_of_build built
  rw [same]
  exact ⟨rfl, sound.shared⟩

theorem participant_of_build : ∀ n ∈ w.automaton.nodes, ∀ v ∈ n.actors,
    ∃ p ∈ setting.participants, p.2.actor = v := by
  obtain ⟨ids, items, draft, _, good, given, _, added, rfl⟩ := build_eq_ok built
  refine Draft.addSteps_keeps (P := fun d => ∀ n ∈ d.nodes, ∀ v ∈ n.actors,
    ∃ p ∈ setting.participants, p.2.actor = v) ?_ ?_ added
  · intro place item before after listed all ok n member v among
    obtain ⟨plan, recorded, specs, planned, _, emitted, rfl⟩ := Draft.addStep_eq_ok ok
    obtain ⟨sound, _, named⟩ := Setting.plan_sound planned
    obtain ⟨role, _, emits⟩ := StepPlan.emits_of_specs sound good emitted
    rcases List.mem_append.1 member with old | new
    · exact all n old v among
    · obtain ⟨spec, from_spec, rfl⟩ := List.mem_map.1 new
      refine named v ?_
      rw [← emits.actors]
      exact List.mem_flatMap.2 ⟨spec, from_spec, among⟩
  · simp [Draft.start]

theorem integral_of_build (integral : ∀ items, steps = some items →
    ∀ item ∈ items, item.IsIntegral) : ∀ n ∈ w.automaton.nodes, n.quota.IsIntegral := by
  obtain ⟨ids, items, draft, _, good, given, _, added, rfl⟩ := build_eq_ok built
  refine Draft.addSteps_keeps (P := fun d => ∀ n ∈ d.nodes, n.quota.IsIntegral) ?_ ?_ added
  · intro place item before after listed all ok n member
    obtain ⟨plan, recorded, specs, planned, _, emitted, rfl⟩ := Draft.addStep_eq_ok ok
    obtain ⟨sound, settled, _⟩ := Setting.plan_sound planned
    obtain ⟨role, _, emits⟩ := StepPlan.emits_of_specs sound good emitted
    rcases List.mem_append.1 member with old | new
    · exact all n old
    · obtain ⟨spec, among, rfl⟩ := List.mem_map.1 new
      exact emits.integral (settled (integral items given item listed)) spec among
  · simp [Draft.start]

end Built

end Workflow
end SignatureRouting
