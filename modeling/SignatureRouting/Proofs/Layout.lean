import SignatureRouting.Proofs.Emission

/-!
Which nodes a step comes to. The nodes of a workflow are those of its steps one after the other, and
each carries the place of its step, so the nodes of one step stand together behind those of earlier
steps. The actors of a step are those that its references stand for, in the same order.
-/
namespace SignatureRouting
open Value

namespace Setting

def actor? (setting : Setting) (reference : Value) : Option Value :=
  (setting.participant? reference).map (·.actor)

theorem actorsAfter_named {setting : Setting} {place : Nat} {role : StepRole} {tag : String}
    {before references actors : List Value}
    (ok : setting.actorsAfter place role tag before references = .ok actors) :
    ∃ named, actors = before ++ named ∧ references.map setting.actor? = named.map some := by
  induction references generalizing before with
  | nil =>
    obtain rfl := Except.ok.inj ok
    exact ⟨[], (List.append_nil before).symm, rfl⟩
  | cons reference rest ih =>
    rw [actorsAfter] at ok
    split at ok
    · contradiction
    · split at ok
      · contradiction
      · rename_i p known
        split at ok
        · contradiction
        · split at ok
          · contradiction
          · obtain ⟨named, all, later⟩ := ih ok
            refine ⟨p.actor :: named, by rw [all, List.append_assoc, List.singleton_append], ?_⟩
            rw [List.map_cons, List.map_cons, later, actor?, known]
            rfl

theorem actors_named {setting : Setting} {place : Nat} {step : Step} {role : StepRole}
    {actors : List Value} (ok : setting.actors place step role = .ok actors) :
    ∃ references, step.participants = some references ∧
      references.map setting.actor? = actors.map some := by
  unfold Setting.actors at ok
  split at ok
  · contradiction
  · contradiction
  · rename_i references _ given
    obtain ⟨found, after, ok⟩ := bind_eq_ok.1 ok
    split at ok
    · obtain rfl := Except.ok.inj ok
      obtain ⟨named, all, same⟩ := actorsAfter_named after
      rw [List.nil_append] at all
      exact ⟨references, given, all ▸ same⟩
    · contradiction

theorem place_of_plan {setting : Setting} {place : Nat} {item : StepItem} {plan : StepPlan}
    (ok : setting.plan place item = .ok plan) : plan.place = place := by
  cases item with
  | other value => contradiction
  | step step =>
    obtain ⟨_, _, _, _, _, _, _, rfl⟩ := planStep_eq_ok ok
    rfl

end Setting

theorem StepPlan.of_mem_specs {plan : StepPlan} {documents : List Value} {specs : List NodeSpec}
    (ok : plan.specs documents = .ok specs) {spec : NodeSpec} (member : spec ∈ specs) :
    spec.step = .int plan.place ∧ plan.role = .standard spec.role ∧ spec.tag = .text plan.tag ∧
      ∀ v ∈ spec.actors, v ∈ plan.actors := by
  unfold StepPlan.specs at ok
  split at ok
  · rename_i is_role
    obtain rfl := Except.ok.inj ok
    obtain rfl := List.mem_singleton.1 member
    exact ⟨rfl, is_role, rfl, fun v listed => listed⟩
  · rename_i is_role
    split at ok
    · obtain rfl := Except.ok.inj ok
      obtain rfl := List.mem_singleton.1 member
      exact ⟨rfl, is_role, rfl, fun v listed => listed⟩
    · split at ok
      · obtain rfl := Except.ok.inj ok
        obtain ⟨actor, listed, rfl⟩ := List.mem_map.1 member
        exact ⟨rfl, is_role, rfl, fun v only => List.mem_singleton.1 only ▸ listed⟩
      · contradiction
  · rename_i is_role
    obtain rfl := Except.ok.inj ok
    obtain rfl := List.mem_singleton.1 member
    exact ⟨rfl, is_role, rfl, fun v listed => listed⟩
  · contradiction

namespace Draft

section Steps
variable {setting : Setting} {documents : List Value}

theorem addSteps_append (first : Nat) (items more : List StepItem) (draft : Draft) :
    addSteps setting documents first (items ++ more) draft =
      (addSteps setting documents first items draft >>=
        addSteps setting documents (first + items.length) more) := by
  induction items generalizing first draft with
  | nil => rfl
  | cons item rest ih =>
    rw [List.cons_append, addSteps, addSteps, List.length_cons, ← Nat.add_assoc, Nat.add_right_comm]
    cases draft.addStep setting documents first item with
    | error e => rfl
    | ok next => exact ih (first + 1) next

theorem addStep_nodes {place : Nat} {item : StepItem} {before after : Draft}
    (ok : before.addStep setting documents place item = .ok after) :
    ∃ plan specs, setting.plan place item = .ok plan ∧ plan.specs documents = .ok specs ∧
      after.nodes = before.nodes ++ specs.map NodeSpec.node ∧
      ∀ n ∈ specs.map NodeSpec.node, n.step = .int place := by
  obtain ⟨plan, _, specs, planned, _, emitted, rfl⟩ := addStep_eq_ok ok
  refine ⟨plan, specs, planned, emitted, rfl, fun n member => ?_⟩
  obtain ⟨spec, among, rfl⟩ := List.mem_map.1 member
  rw [← Setting.place_of_plan planned]
  exact (StepPlan.of_mem_specs emitted among).1

theorem addSteps_nodes {first : Nat} {items : List StepItem} {before after : Draft}
    (ok : addSteps setting documents first items before = .ok after) :
    ∃ added, after.nodes = before.nodes ++ added ∧
      ∀ n ∈ added, ∃ place : Nat, n.step = .int place ∧ first ≤ place ∧
        place < first + items.length := by
  induction items generalizing first before with
  | nil =>
    obtain rfl := Except.ok.inj ok
    exact ⟨[], (List.append_nil _).symm, by simp⟩
  | cons item rest ih =>
    rw [addSteps] at ok
    obtain ⟨next, one, ok⟩ := bind_eq_ok.1 ok
    obtain ⟨_, specs, _, _, grown, here⟩ := addStep_nodes one
    obtain ⟨added, nodes, places⟩ := ih ok
    refine ⟨specs.map NodeSpec.node ++ added, by rw [nodes, grown, List.append_assoc], ?_⟩
    intro n member
    rw [List.length_cons]
    rcases List.mem_append.1 member with now | later
    · exact ⟨first, here n now, Nat.le_refl _, by omega⟩
    · obtain ⟨place, step, least, most⟩ := places n later
      exact ⟨place, step, by omega, by omega⟩

end Steps

end Draft

/-- The nodes of one step stand together, between those of earlier and those of later steps. -/
theorem nodes_around_step {setting : Setting} {history : History} {items : List StepItem}
    {documents : Option (List Value)} {w : Workflow}
    (built : Workflow.build setting history (some items) documents = .ok w) {place : Nat}
    {item : StepItem} (listed : items[place]? = some item) :
    ∃ plan specs front back, setting.plan place item = .ok plan ∧
      plan.specs w.documents = .ok specs ∧
      w.automaton.nodes = front ++ (specs.map NodeSpec.node ++ back) ∧
      (∀ n ∈ front, ∃ other : Nat, n.step = .int other ∧ other < place) ∧
      (∀ n ∈ specs.map NodeSpec.node, n.step = .int place) ∧
      ∀ n ∈ back, ∃ other : Nat, n.step = .int other ∧ place < other := by
  obtain ⟨ids, given, draft, _, _, same, _, added, rfl⟩ := Workflow.build_eq_ok built
  obtain rfl := Option.some.inj same
  obtain ⟨inside, rfl⟩ := List.getElem?_eq_some_iff.1 listed
  have count : (items.take place).length = place := List.length_take_of_le (Nat.le_of_lt inside)
  have parts : items = items.take place ++ (items[place] :: items.drop (place + 1)) := by
    rw [← List.drop_eq_getElem_cons inside, List.take_append_drop]
  rw [parts, Draft.addSteps_append, count, Nat.zero_add] at added
  obtain ⟨before, earlier, added⟩ := bind_eq_ok.1 added
  rw [Draft.addSteps] at added
  obtain ⟨after, one, later⟩ := bind_eq_ok.1 added
  obtain ⟨front, before_nodes, front_places⟩ := Draft.addSteps_nodes earlier
  obtain ⟨plan, specs, planned, emitted, one_nodes, here⟩ := Draft.addStep_nodes one
  obtain ⟨back, nodes, back_places⟩ := Draft.addSteps_nodes later
  refine ⟨plan, specs, front, back, planned, emitted, ?_, fun n member => ?_, here,
    fun n member => ?_⟩
  · rw [nodes, one_nodes, before_nodes, List.append_assoc]
    rfl
  · obtain ⟨other, step, _, less⟩ := front_places n member
    exact ⟨other, step, by omega⟩
  · obtain ⟨other, step, more, _⟩ := back_places n member
    exact ⟨other, step, more⟩

/-- Where a node stands tells whether its step is earlier, the same or later, and conversely. -/
theorem places_around {nodes front own back : List Node} {place : Nat}
    (parts : nodes = front ++ (own ++ back))
    (earlier : ∀ n ∈ front, ∃ other : Nat, n.step = .int other ∧ other < place)
    (here : ∀ n ∈ own, n.step = .int place)
    (later : ∀ n ∈ back, ∃ other : Nat, n.step = .int other ∧ place < other) {k : Nat} {n : Node}
    (found : nodes[k]? = some n) :
    ∃ other : Nat, n.step = .int other ∧ (other < place ↔ k < front.length) ∧
      (place < other ↔ front.length + own.length ≤ k) := by
  rw [parts] at found
  by_cases before : k < front.length
  · rw [List.getElem?_append_left before] at found
    obtain ⟨other, step, less⟩ := earlier n (List.mem_of_getElem? found)
    exact ⟨other, step, by omega, by omega⟩
  rw [List.getElem?_append_right (by omega)] at found
  by_cases within : k - front.length < own.length
  · rw [List.getElem?_append_left within] at found
    exact ⟨place, here n (List.mem_of_getElem? found), by omega, by omega⟩
  · rw [List.getElem?_append_right (by omega)] at found
    obtain ⟨other, step, more⟩ := later n (List.mem_of_getElem? found)
    exact ⟨other, step, by omega, by omega⟩

end SignatureRouting
