import SignatureRouting.Proofs.Compilation
import SignatureRouting.Proofs.Passing

/-!
Whoever acts is entitled to it. A build lets an actor take part in a step only by the role tags of a
participant that the step refers to, and afterwards an action is held only against the actors and the
tag of its node. The node still tells which step it came from, so this is enough.
-/
namespace SignatureRouting
open Value

namespace Value

theorem eq_text_of_same {v : Value} {s : String} (same : (.text s == v) = true) : v = .text s := by
  rw [beq_iff_key_eq] at same
  cases v with
  | text t => simpa [key] using same.symm
  | float x => cases x <;> simp [key] at same
  | _ => simp [key] at same

theorem mem_of_contains_text {l : List Value} {s : String} (found : l.contains (.text s) = true) :
    .text s ∈ l := by
  obtain ⟨v, member, same⟩ := exists_same_of_contains found
  rwa [← eq_text_of_same same]

end Value

/-- The role tags that let an actor take part in a step: its own and, where it has one, the generic
one of its role. -/
def Role.GrantedBy (role : Role) (tag : String) (roleTags : List Value) : Prop :=
  .text tag ∈ roleTags ∨ (role = .approval ∧ .text Tag.approval ∈ roleTags) ∨
    (role = .signature ∧ .text Tag.sign ∈ roleTags)

theorem TagPolicy.granted_of_isEntitled {role : Role} {tag : String} {roleTags : List Value}
    (entitled : isEntitled (.standard role) (.text tag) roleTags = true) :
    role.GrantedBy tag roleTags := by
  unfold isEntitled at entitled
  rcases (Bool.or_eq_true_iff ..).1 entitled with own | generic
  · exact Or.inl (mem_of_contains_text own)
  · cases role with
    | approval => exact Or.inr (Or.inl ⟨rfl, mem_of_contains_text generic⟩)
    | signature => exact Or.inr (Or.inr ⟨rfl, mem_of_contains_text generic⟩)
    | expedition => contradiction

def Setting.RefersTo (setting : Setting) (step : Step) (p : Participant) : Prop :=
  ∃ references, step.participants = some references ∧
    ∃ reference ∈ references, setting.participant? reference = some p

/-- A node came from an authored step, and its actors are participants entitled to that step. -/
structure Node.ComesFrom (n : Node) (policy : TagPolicy) (setting : Setting)
    (items : List StepItem) (place : Nat) (step : Step) : Prop where
  at_place : n.step = .int place
  listed : items[place]? = some (.step step)
  resolves : policy.resolve step.process = .found (.standard n.role)
  tag : n.tag = .text step.tag
  no_sign : step.tag ≠ Tag.sign
  actors : ∀ v ∈ n.actors, ∃ p, setting.RefersTo step p ∧ p.actor = v ∧
    n.role.GrantedBy step.tag p.roleTags

structure Deed.IsEntitled (deed : Deed) (policy : TagPolicy) (setting : Setting)
    (items : List StepItem) (place : Nat) (step : Step) (p : Participant) : Prop where
  at_place : deed.outcome.node.step = .int place
  listed : items[place]? = some (.step step)
  resolves : policy.resolve step.process = .found (.standard deed.outcome.node.role)
  tag : deed.action.tag = .text step.tag
  no_sign : deed.action.tag ≠ .text Tag.sign
  participant : setting.RefersTo step p
  actor : (p.actor == deed.action.actor) = true
  granted : deed.outcome.node.role.GrantedBy step.tag p.roleTags

section Policed
variable {policy : TagPolicy} {setting : Setting} {history : History} {items : List StepItem}
  {documents : Option (List Value)} {w : Workflow} (policed : setting.resolver = policy.resolver)
include policed

theorem comesFrom_of_specs {plan : StepPlan} {place : Nat} {item : StepItem}
    (listed : items[place]? = some item) (plans : setting.plan place item = .ok plan)
    {ids : List Value} {specs : List NodeSpec} (emits : plan.specs ids = .ok specs)
    {spec : NodeSpec} (member : spec ∈ specs) :
    ∃ step, spec.node.ComesFrom policy setting items place step := by
  obtain ⟨at_place, is_role, tag, actors⟩ := StepPlan.of_mem_specs emits member
  cases item with
  | other value => contradiction
  | step step =>
    obtain ⟨role, _, _, resolved, _, found, _, rfl⟩ := Setting.planStep_eq_ok plans
    obtain rfl : role = .standard spec.role := is_role
    obtain ⟨resolves, _, no_sign⟩ := Setting.role_eq_ok resolved
    rw [policed] at resolves
    refine ⟨step, at_place, listed, resolves, tag, no_sign, fun v among => ?_⟩
    obtain ⟨references, given, reference, refers, p, known, same, entitled⟩ :=
      Setting.entitled_of_actors found (actors v among)
    rw [policed] at entitled
    exact ⟨p, ⟨references, given, reference, refers, known⟩, same,
      TagPolicy.granted_of_isEntitled entitled⟩

variable (built : Workflow.build setting history (some items) documents = .ok w)
include built

theorem comesFrom_of_build {n : Node} (member : n ∈ w.automaton.nodes) :
    ∃ place step, n.ComesFrom policy setting items place step := by
  obtain ⟨parts, _, _, planned, _, emitted⟩ := Workflow.planned_of_build built
  rw [emitted] at member
  obtain ⟨part, among, own⟩ := List.mem_flatMap.1 member
  obtain ⟨i, found⟩ := List.mem_iff_getElem?.1 among
  obtain ⟨item, listed, plans, emits⟩ := planned.of_part found
  rw [Nat.zero_add] at plans
  obtain ⟨spec, specified, rfl⟩ := List.mem_map.1 own
  exact ⟨i, comesFrom_of_specs policed listed plans emits specified⟩

theorem isEntitled_of_accepted {deeds : List Deed} {a : Automaton} (run : Run w.automaton deeds a)
    {x : Action} {t : Transition} (accepted : a.transition x = .ok t) :
    ∃ place step p, Deed.IsEntitled ⟨x, t⟩ policy setting items place step p := by
  -- The node has changed since it was emitted, but not its step, role and tag, nor has it new actors.
  obtain ⟨s, emitted, same_step, same_role, tag, known⟩ :=
    run.landed_at (Workflow.fresh_of_build built) accepted
  obtain ⟨place, step, origin⟩ := comesFrom_of_build policed built (List.mem_of_getElem? emitted)
  obtain ⟨v, among, same⟩ := exists_same_of_contains known
  obtain ⟨p, refers, rfl, granted⟩ := origin.actors v among
  rw [Value.equals, Bool.and_eq_true, origin.tag] at tag
  have wrote : x.tag = .text step.tag := eq_text_of_same (same_symm tag.1)
  refine ⟨place, step, p, ?_, origin.listed, ?_, wrote, ?_, refers, same_symm same, ?_⟩
  · exact same_step.trans origin.at_place
  · exact same_role ▸ origin.resolves
  · rw [wrote]
    exact fun signs => origin.no_sign (Value.text.inj signs)
  · exact same_role ▸ granted

theorem only_entitled_act {deeds : List Deed} {a : Automaton} (run : Run w.automaton deeds a) :
    (∀ deed ∈ deeds, ∃ place step p, deed.IsEntitled policy setting items place step p) ∧
      ∀ (place : Nat) (step : Step) (x : Action), items[place]? = some (.step step) →
        (∀ p, setting.RefersTo step p → (p.actor == x.actor) = false) →
          ∀ t, a.transition x = .ok t → t.node.step ≠ .int place := by
  constructor
  · induction run with
    | none => simp
    | @act deeds a x t before accepted ih =>
      intro deed member
      rcases List.mem_append.1 member with old | new
      · exact ih deed old
      · obtain rfl := List.mem_singleton.1 new
        exact isEntitled_of_accepted policed built before accepted
  · intro place step x listed outside t accepted here
    obtain ⟨other, step', p, entitled⟩ := isEntitled_of_accepted policed built run accepted
    obtain rfl : other = place :=
      Int.ofNat_inj.1 (Value.int.inj (entitled.at_place.symm.trans here))
    obtain rfl := StepItem.step.inj (Option.some.inj (entitled.listed.symm.trans listed))
    have apart := outside p entitled.participant
    rw [entitled.actor] at apart
    contradiction

end Policed

theorem agency_only_entitled_act :
    ∃ w deeds a,
      Workflow.build agency .empty (some approveThenSign) (some [.int 10, .int 11]) = .ok w ∧
      w.automaton.play [⟨.int 1, .text "approval", [.int 10, .int 11]⟩,
        ⟨.int 2, .text "approval", [.int 10, .int 11]⟩,
        ⟨.int 2, .text "countersign", [.int 10]⟩] = .ok (deeds, a) ∧
      deeds.length = 3 ∧
      (∀ deed ∈ deeds, ∃ place step p,
        deed.IsEntitled TagPolicy.builtIn agency approveThenSign place step p) ∧
      ∀ tag ids t, a.transition ⟨.int 1, tag, ids⟩ = .ok t → t.node.step ≠ .int (1 : Nat) := by
  have reached : ∃ w deeds a,
      Workflow.build agency .empty (some approveThenSign) (some [.int 10, .int 11]) = .ok w ∧
      w.automaton.play [⟨.int 1, .text "approval", [.int 10, .int 11]⟩,
        ⟨.int 2, .text "approval", [.int 10, .int 11]⟩,
        ⟨.int 2, .text "countersign", [.int 10]⟩] = .ok (deeds, a) ∧
      deeds.length = 3 := ⟨_, _, _, rfl, rfl, rfl⟩
  obtain ⟨w, deeds, a, built, played, three⟩ := reached
  have policed : agency.resolver = TagPolicy.builtIn.resolver := rfl
  obtain ⟨entitled, outside⟩ := only_entitled_act policed built (run_of_play played)
  refine ⟨w, deeds, a, built, played, three, entitled, fun tag ids => outside 1 _ _ rfl ?_⟩
  rintro p ⟨references, given, reference, refers, known⟩
  obtain rfl := Option.some.inj given
  simp only [List.mem_cons, List.not_mem_nil, or_false] at refers
  rcases refers with rfl | rfl
  · obtain rfl := Option.some.inj known
    rfl
  · obtain rfl := Option.some.inj known
    rfl

end SignatureRouting
