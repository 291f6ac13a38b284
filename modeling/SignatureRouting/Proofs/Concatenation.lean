import SignatureRouting.Proofs.Compilation

/-!
Building steps after others. What is made of a step depends on the steps before it only by their
number, which is its place, and by what they record. So a list of steps is built like its first part
and then its second part on its own, if the second is checked against a history to which the actors
of the first are added. Places that are named in nodes and in refusals are counted from where the
second part begins.
-/
namespace SignatureRouting
open Value

def BuildError.later (n : Nat) : BuildError → BuildError
  | missingProcess place => missingProcess (n + place)
  | badProcess place process => badProcess (n + place) process
  | badSignatureType place authored => badSignatureType (n + place) authored
  | incompatibleSignature place type format => incompatibleSignature (n + place) type format
  | noParticipant place => noParticipant (n + place)
  | repeatedParticipant place reference => repeatedParticipant (n + place) reference
  | unfitCardinality place quota tag => unfitCardinality (n + place) quota tag
  | alreadySigned place document => alreadySigned (n + place) document
  | notSigned place document => notSigned (n + place) document
  | repeatedAction place actor document role => repeatedAction (n + place) actor document role
  | foreignRole place role => foreignRole (n + place) role
  | e => e

inductive Failure.SameClass : Failure → Failure → Prop where
  | signing {e f : SigningError} (same : e.className = f.className) :
      SameClass (.signing e) (.signing f)
  | same (f : Failure) : SameClass f f

theorem Failure.sameClass_plain (c : Category) (l m : String) :
    SameClass (.signing (.plain c l)) (.signing (.plain c m)) := .signing rfl

theorem Failure.sameClass_bind {c : Category} {α : Type} (x : Except Overlong α)
    {f g : α → Except Overlong String}
    (each : ∀ a, (ofMessage c (f a)).SameClass (ofMessage c (g a))) :
    (ofMessage c (x >>= f)).SameClass (ofMessage c (x >>= g)) := by
  cases x with
  | ok a => exact each a
  | error o => exact .same _

theorem BuildError.sameClass_later (n : Nat) (e : BuildError) :
    (e.later n).failure.SameClass e.failure := by
  cases e with
  | missingProcess | noParticipant => exact Failure.sameClass_plain _ _ _
  | badProcess | badSignatureType | incompatibleSignature | repeatedParticipant | unfitCardinality
  | alreadySigned | notSigned | foreignRole =>
    exact Failure.sameClass_bind _ fun _ => Failure.sameClass_plain _ _ _
  | repeatedAction =>
    exact Failure.sameClass_bind _ fun _ =>
      Failure.sameClass_bind _ fun _ => Failure.sameClass_plain _ _ _
  | _ => exact .same _

def StepPlan.later (n : Nat) (plan : StepPlan) : StepPlan := { plan with place := n + plan.place }

def Node.later (n : Nat) (node : Node) : Node where
  step :=
    match node.step with
    | .int place => .int (n + place)
    | other => other
  role := node.role
  tag := node.tag
  actors := node.actors
  opened := node.opened
  quota := node.quota
  doneActors := node.doneActors
  doneDocuments := node.doneDocuments

/-- Two computations, the second of which works so many places further on: they have related
results, or the same refusal but for its place. -/
inductive Moved (n : Nat) {α β : Type} (R : α → β → Prop) :
    Except BuildError α → Except BuildError β → Prop where
  | done {a : α} {b : β} (related : R a b) : Moved n R (.ok a) (.ok b)
  | refused (e : BuildError) : Moved n R (.error e) (.error (e.later n))

section Moved
variable {n : Nat} {α β γ δ : Type} {R : α → β → Prop} {S : γ → δ → Prop}
  {x : Except BuildError α} {y : Except BuildError β}

theorem Moved.bind (moved : Moved n R x y) {f : α → Except BuildError γ}
    {g : β → Except BuildError δ} (next : ∀ a b, R a b → Moved n S (f a) (g b)) :
    Moved n S (x >>= f) (y >>= g) := by
  cases moved with
  | done related => exact next _ _ related
  | refused e => exact .refused e

theorem Moved.map (moved : Moved n R x y) {f : α → γ} {g : β → δ}
    (next : ∀ a b, R a b → S (f a) (g b)) : Moved n S (x.map f) (y.map g) := by
  cases moved with
  | done related => exact .done (next _ _ related)
  | refused e => exact .refused e

theorem Moved.of_ok (moved : Moved n R x y) {a : α} (ok : x = .ok a) : ∃ b, y = .ok b ∧ R a b := by
  cases moved with
  | done related =>
    obtain rfl := Except.ok.inj ok
    exact ⟨_, rfl, related⟩
  | refused e => contradiction

theorem Moved.of_error (moved : Moved n R x y) {e : BuildError} (refused : x = .error e) :
    y = .error (e.later n) := by
  cases moved with
  | done related => contradiction
  | refused f =>
    obtain rfl := Except.error.inj refused
    rfl

end Moved

namespace Setting
variable (setting : Setting) (n place : Nat)

theorem role_moved (step : Step) :
    Moved n Eq (setting.role place step) (setting.role (n + place) step) := by
  have tagged : Moved n Eq (step.tag?.mapError BuildError.overlong)
      (step.tag?.mapError BuildError.overlong) := by
    cases step.tag? with
    | ok tag => exact .done rfl
    | error o => exact .refused _
  refine tagged.bind ?_
  rintro tag _ rfl
  split
  · exact .refused _
  · exact .refused _
  · split
    · exact .refused _
    · exact .done rfl

theorem checkSignatureType_moved (step : Step) :
    Moved n Eq (setting.checkSignatureType place step)
      (setting.checkSignatureType (n + place) step) := by
  unfold checkSignatureType
  split
  · exact .refused _
  · split
    · exact .done rfl
    · exact .refused _

theorem actorsAfter_moved (role : StepRole) (tag : String) (before references : List Value) :
    Moved n Eq (setting.actorsAfter place role tag before references)
      (setting.actorsAfter (n + place) role tag before references) := by
  induction references generalizing before with
  | nil => exact .done rfl
  | cons reference rest ih =>
    rw [actorsAfter, actorsAfter]
    split
    · exact .refused _
    · split
      · exact .refused _
      · split
        · exact .refused _
        · split
          · cases role <;> exact .refused _
          · exact ih _

theorem actors_moved (step : Step) (role : StepRole) :
    Moved n Eq (setting.actors place step role) (setting.actors (n + place) step role) := by
  unfold Setting.actors
  split
  · exact .refused _
  · exact .refused _
  · refine (setting.actorsAfter_moved n place role step.tag [] _).bind ?_
    rintro actors _ rfl
    split
    · exact .done rfl
    · exact .refused _

theorem quota_moved (step : Step) (role : StepRole) (actors : Nat) :
    Moved n Eq (Setting.quota place step role actors)
      (Setting.quota (n + place) step role actors) := by
  have read : Moved n Eq ((step.quota role (.int actors)).mapError BuildError.ofCardinality)
      ((step.quota role (.int actors)).mapError BuildError.ofCardinality) := by
    cases step.quota role (.int actors) with
    | ok quota => exact .done rfl
    | error e => cases e <;> exact .refused _
  refine read.bind ?_
  rintro quota _ rfl
  split
  · exact .refused _
  · split
    · exact .done rfl
    · exact .refused _

theorem plan_moved (item : StepItem) :
    Moved n (fun plan moved => moved = plan.later n) (setting.plan place item)
      (setting.plan (n + place) item) := by
  cases item with
  | other value => exact .refused _
  | step step =>
    refine (setting.role_moved n place step).bind ?_
    rintro role _ rfl
    have rest : Moved n (fun plan moved => moved = StepPlan.later n plan)
        (do
          let actors ← setting.actors place step role
          let quota ← Setting.quota place step role actors.length
          return ⟨place, step.tag, role, actors, quota⟩)
        (do
          let actors ← setting.actors (n + place) step role
          let quota ← Setting.quota (n + place) step role actors.length
          return ⟨n + place, step.tag, role, actors, quota⟩) := by
      refine (setting.actors_moved n place step role).bind ?_
      rintro actors _ rfl
      refine (quota_moved n place step role actors.length).bind ?_
      rintro quota _ rfl
      exact .done rfl
    cases role with
    | foreign value => exact rest
    | standard role =>
      cases role with
      | approval => exact rest
      | signature => exact (setting.checkSignatureType_moved n place step).bind fun _ _ _ => rest
      | expedition => exact rest

end Setting

theorem StepPlan.specs_moved (n : Nat) (plan : StepPlan) (documents : List Value) :
    Moved n (fun specs moved =>
        moved.map NodeSpec.node = (specs.map NodeSpec.node).map (Node.later n))
      (plan.specs documents) ((plan.later n).specs documents) := by
  obtain ⟨place, tag, role, actors, quota⟩ := plan
  cases role with
  | foreign value => exact .refused _
  | standard role =>
    cases role with
    | approval => exact .done rfl
    | expedition => exact .done rfl
    | signature =>
      change Moved n _ _ (specs ⟨n + place, tag, .standard .signature, actors, quota⟩ documents)
      unfold specs
      dsimp only
      by_cases shared : Tag.isShared tag = true
      · rw [if_pos shared, if_pos shared]
        exact .done rfl
      · rw [if_neg shared, if_neg shared]
        by_cases sequential : Tag.isSequential tag = true
        · rw [if_pos sequential, if_pos sequential]
          exact .done (by simp [NodeSpec.node, Node.later])
        · rw [if_neg sequential, if_neg sequential]
          exact .refused _

namespace History

def Alike (h k : History) : Prop := ∀ d v role, h.Records d v role ↔ k.Records d v role

section Alike
variable {h k : History} (alike : h.Alike k) (n place : Nat)
include alike

theorem Alike.recordAll (document : Value) (role : Role) (actors : List Value) :
    (h.recordAll document role actors).Alike (k.recordAll document role actors) := by
  intro d v r
  rw [records_recordAll, records_recordAll, alike d v r]

theorem Alike.checkState (role : Role) (document : Value) :
    Moved n Eq (h.checkState place role document) (k.checkState (n + place) role document) := by
  have signers : (h.tally document).signers.isEmpty = (k.tally document).signers.isEmpty := by
    have signed : (h.tally document).signers ≠ [] ↔ (k.tally document).signers ≠ [] := by
      rw [signers_ne_nil_iff, signers_ne_nil_iff]
      exact exists_congr fun v => alike document v .signature
    rw [Bool.eq_iff_iff, List.isEmpty_iff, List.isEmpty_iff, ← not_iff_not]
    exact signed
  cases role with
  | approval =>
    simp only [History.checkState, signers]
    split
    · exact .done rfl
    · exact .refused _
  | signature => exact .done rfl
  | expedition =>
    simp only [History.checkState, signers]
    split
    · exact .refused _
    · exact .done rfl

theorem Alike.checkActors (role : Role) (document : Value) (actors : List Value) :
    Moved n Eq (h.checkActors place role document actors)
      (k.checkActors (n + place) role document actors) := by
  induction actors with
  | nil => exact .done rfl
  | cons actor rest ih =>
    have recorded : ((h.tally document).actors role).contains actor =
        ((k.tally document).actors role).contains actor :=
      Bool.eq_iff_iff.2 (alike document actor role)
    rw [History.checkActors, History.checkActors, recorded]
    split
    · exact .refused _
    · exact ih

theorem Alike.carryOut (role : Role) (actors documents : List Value) :
    Moved n Alike (History.carryOut place role actors documents h)
      (History.carryOut (n + place) role actors documents k) := by
  induction documents generalizing h k with
  | nil => exact .done alike
  | cons document rest ih =>
    refine (alike.checkState n place role document).bind fun _ _ _ => ?_
    refine (alike.checkActors n place role document actors).bind fun _ _ _ => ?_
    exact ih (alike.recordAll document role actors)

end Alike

end History

/-- A draft that goes on where another one starts afresh: it had some actors and nodes before, and
the steps of the other so many places further on. -/
structure Draft.GoesOn (known : List Value) (front : List Node) (n : Nat) (a b : Draft) : Prop where
  distinct : Distinct a.actors
  actors : b.actors = unique (known ++ a.actors)
  history : a.history.Alike b.history
  nodes : b.nodes = front ++ a.nodes.map (Node.later n)

section GoesOn
variable {known : List Value} {front : List Node} {n : Nat} {a b : Draft}
  (on : Draft.GoesOn known front n a b) (setting : Setting) (documents : List Value) (place : Nat)
include on

theorem Draft.GoesOn.addStep (item : StepItem) :
    Moved n (Draft.GoesOn known front n) (a.addStep setting documents place item)
      (b.addStep setting documents (n + place) item) := by
  refine (setting.plan_moved n place item).bind ?_
  rintro plan _ rfl
  refine (on.history.carryOut n place plan.role.recorded plan.actors documents).bind ?_
  intro after_a after_b alike
  refine (plan.specs_moved n documents).bind ?_
  intro specs moved nodes
  refine .done ⟨distinct_unique _, ?_, alike, ?_⟩
  · rw [on.actors, unique_unique_append, unique_append_unique, List.append_assoc]
    rfl
  · simp only [nodes, on.nodes, List.map_append, List.append_assoc]

theorem Draft.GoesOn.addSteps (items : List StepItem) :
    Moved n (Draft.GoesOn known front n) (Draft.addSteps setting documents place items a)
      (Draft.addSteps setting documents (n + place) items b) := by
  induction items generalizing place a b with
  | nil => exact .done on
  | cons item rest ih =>
    exact (on.addStep setting documents place item).bind fun c d next => ih next (place + 1)

end GoesOn

namespace Setting

/-- What one step records when it is carried out: everybody it refers to has acted in its role on
every document. -/
def recordsOf (setting : Setting) (documents : List Value) : StepItem → List Record
  | .other _ => []
  | .step step =>
    match setting.resolver.resolve step.process with
    | .found (.standard role) =>
      documents.flatMap fun d =>
        ((step.participants.getD []).filterMap setting.actor?).map fun v => ⟨d, v, role⟩
    | _ => []

def records (setting : Setting) (documents : List Value) (items : List StepItem) : List Record :=
  items.flatMap (setting.recordsOf documents)

theorem recordsOf_of_plan {setting : Setting} {place : Nat} {item : StepItem} {plan : StepPlan}
    (plans : setting.plan place item = .ok plan) {role : Role}
    (is_role : plan.role = .standard role) (documents : List Value) :
    setting.recordsOf documents item =
      documents.flatMap fun d => plan.actors.map fun v => ⟨d, v, role⟩ := by
  cases item with
  | other value => contradiction
  | step step =>
    obtain ⟨found, actors, _, resolved, _, listed, _, rfl⟩ := planStep_eq_ok plans
    obtain rfl : found = .standard role := is_role
    obtain ⟨references, given, named⟩ := actors_named listed
    have same : references.filterMap setting.actor? = actors := by
      have mapped := congrArg (List.filterMap id) named
      simpa [List.filterMap_map] using mapped
    simp only [recordsOf, (role_eq_ok resolved).1, given, Option.getD_some, same]

end Setting

theorem StepPlan.standard_of_specs {plan : StepPlan} {documents : List Value}
    {specs : List NodeSpec} (ok : plan.specs documents = .ok specs) :
    ∃ role, plan.role = .standard role := by
  obtain ⟨place, tag, role, actors, quota⟩ := plan
  cases role with
  | foreign value => contradiction
  | standard role => exact ⟨role, rfl⟩

theorem Draft.records_of_addSteps {setting : Setting} {documents : List Value} {first : Nat}
    {items : List StepItem} {before after : Draft}
    (ok : Draft.addSteps setting documents first items before = .ok after) :
    (before.history.recordEach (setting.records documents items)).Alike after.history := by
  induction items generalizing first before with
  | nil =>
    obtain rfl := Except.ok.inj ok
    intro d v r
    rfl
  | cons item rest ih =>
    rw [Draft.addSteps] at ok
    obtain ⟨next, one, ok⟩ := bind_eq_ok.1 ok
    obtain ⟨plan, history, specs, plans, carried, emits, rfl⟩ := Draft.addStep_eq_ok one
    obtain ⟨role, is_role⟩ := StepPlan.standard_of_specs emits
    have own := Setting.recordsOf_of_plan plans is_role documents
    intro d v r
    have here := (History.carriedOut_of_carryOut carried).records d v r
    rw [← ih ok d v r, History.records_recordEach, History.records_recordEach, here, is_role,
      or_assoc]
    refine or_congr_right ?_
    have added : documents.contains d = true ∧ plan.actors.contains v = true ∧ r = role ↔
        ∃ rec ∈ setting.recordsOf documents item, (d == rec.document) = true ∧
          (v == rec.actor) = true ∧ r = rec.role := by
      rw [own, List.contains_iff_exists_mem_beq, List.contains_iff_exists_mem_beq]
      simp only [List.mem_flatMap, List.mem_map]
      constructor
      · rintro ⟨⟨e, among, same⟩, ⟨u, listed, alike⟩, rfl⟩
        exact ⟨⟨e, u, r⟩, ⟨e, among, u, listed, rfl⟩, same, alike, rfl⟩
      · rintro ⟨_, ⟨e, among, u, listed, rfl⟩, same, alike, rfl⟩
        exact ⟨⟨e, among, same⟩, ⟨u, listed, alike⟩, rfl⟩
    simp only [StepRole.recorded, added, Setting.records, List.flatMap_cons, List.mem_append,
      or_and_right, exists_or]

theorem History.Alike.trans {g h k : History} (first : g.Alike h) (second : h.Alike k) :
    g.Alike k := fun d v r => (first d v r).trans (second d v r)

theorem History.recordEach_perm (h : History) {records others : List Record}
    (perm : records.Perm others) : (h.recordEach records).Alike (h.recordEach others) := by
  intro d v r
  simp only [records_recordEach, perm.mem_iff]

namespace Workflow

theorem build_of_documents {documents : Option (List Value)} {ids : List Value}
    (given : documentIds documents = .ok ids) {items : List StepItem} (some_step : items ≠ [])
    (setting : Setting) (history : History) :
    build setting history (some items) documents =
      (Draft.addSteps setting ids 0 items (.start history)).map fun draft =>
        ⟨draft.actors, ids, ⟨draft.nodes, 0⟩⟩ := by
  cases items with
  | nil => contradiction
  | cons item rest =>
    simp only [build, given, bind, Except.bind]
    cases Draft.addSteps setting ids 0 (item :: rest) (.start history) <;> rfl

theorem build_of_refused_documents {documents : Option (List Value)} {e : BuildError}
    (refused : documentIds documents = .error e) (setting : Setting) (history : History)
    (steps : Option (List StepItem)) : build setting history steps documents = .error e := by
  simp only [build, refused, bind, Except.bind]

section Parts
variable {setting : Setting} {history : History} {documents : Option (List Value)}
  {first second : List StepItem}

theorem build_append_of_refused (some_first : first ≠ []) {e : BuildError}
    (refused : build setting history (some first) documents = .error e) :
    build setting history (some (first ++ second)) documents = .error e := by
  cases given : documentIds documents with
  | error f =>
    rw [build_of_refused_documents given] at refused ⊢
    exact refused
  | ok ids =>
    rw [build_of_documents given some_first] at refused
    rw [build_of_documents given (List.append_ne_nil_of_left_ne_nil some_first second),
      Draft.addSteps_append]
    cases added : Draft.addSteps setting ids 0 first (.start history) with
    | ok draft =>
      rw [added] at refused
      contradiction
    | error f =>
      rw [added] at refused
      exact refused

def followedBy (w v : Workflow) (n : Nat) : Workflow where
  actors := w.actors ++ v.actors.filter fun a => !w.actors.contains a
  documents := w.documents
  automaton := ⟨w.automaton.nodes ++ v.automaton.nodes.map (Node.later n), 0⟩

theorem build_append_of_built (some_second : second ≠ []) {w : Workflow}
    (built : build setting history (some first) documents = .ok w) {records : List Record}
    (perm : records.Perm (setting.records w.documents first)) :
    Moved first.length (fun v u => u = w.followedBy v first.length)
      (build setting (history.recordEach records) (some second) documents)
      (build setting history (some (first ++ second)) documents) := by
  obtain ⟨ids, items, draft, rfl, good, same, some_first, added, rfl⟩ := build_eq_ok built
  obtain rfl := Option.some.inj same
  have distinct : Distinct draft.actors :=
    Draft.addSteps_keeps (P := fun d => Distinct d.actors) (fun {place item d e} _ _ one => by
      obtain ⟨_, _, _, _, _, _, rfl⟩ := Draft.addStep_eq_ok one
      exact distinct_unique _) distinct_nil added
  have on : Draft.GoesOn draft.actors draft.nodes first.length
      (.start (history.recordEach records)) draft := by
    refine ⟨distinct_nil, ?_, ?_, by simp [Draft.start]⟩
    · simpa [Draft.start] using (unique_of_distinct distinct).symm
    · exact (history.recordEach_perm perm).trans (Draft.records_of_addSteps added)
  have given := documentIds_of_good good
  have appended : Draft.addSteps setting ids 0 (first ++ second) (.start history) = _ :=
    Draft.addSteps_append 0 first second (.start history)
  rw [added, Nat.zero_add] at appended
  rw [build_of_documents given some_second,
    build_of_documents given (List.append_ne_nil_of_left_ne_nil some_first second), appended]
  refine (on.addSteps setting ids 0 second).map fun c d grown => ?_
  have joined := unique_append_of_distinct distinct grown.distinct
  simp only [followedBy, grown.actors, joined, grown.nodes]

end Parts

end Workflow

theorem built_in_two_parts (setting : Setting) (history : History)
    (documents : Option (List Value)) {first second : List StepItem} (some_first : first ≠ [])
    (some_second : second ≠ []) :
    (∀ e, Workflow.build setting history (some first) documents = .error e →
      Workflow.build setting history (some (first ++ second)) documents = .error e) ∧
    ∀ w, Workflow.build setting history (some first) documents = .ok w →
      ∀ records, records.Perm (setting.records w.documents first) →
        ((∃ u, Workflow.build setting history (some (first ++ second)) documents = .ok u) ↔
          ∃ v, Workflow.build setting (history.recordEach records) (some second) documents =
            .ok v) ∧
        (∀ v, Workflow.build setting (history.recordEach records) (some second) documents = .ok v →
          Workflow.build setting history (some (first ++ second)) documents =
            .ok ⟨w.actors ++ v.actors.filter (fun a => !w.actors.contains a), w.documents,
              ⟨w.automaton.nodes ++ v.automaton.nodes.map (Node.later first.length), 0⟩⟩) ∧
        ∀ e, Workflow.build setting (history.recordEach records) (some second) documents =
            .error e →
          Workflow.build setting history (some (first ++ second)) documents =
            .error (e.later first.length) ∧
          (e.later first.length).failure.SameClass e.failure := by
  refine ⟨fun e refused => Workflow.build_append_of_refused some_first refused, ?_⟩
  intro w built records perm
  have moved := Workflow.build_append_of_built some_second built perm
  have done : ∀ v, Workflow.build setting (history.recordEach records) (some second) documents =
      .ok v → Workflow.build setting history (some (first ++ second)) documents =
        .ok (w.followedBy v first.length) := by
    intro v ok
    obtain ⟨_, whole, rfl⟩ := moved.of_ok ok
    exact whole
  refine ⟨⟨?_, fun ⟨v, ok⟩ => ⟨_, done v ok⟩⟩, done, fun e refused => ?_⟩
  · rintro ⟨u, whole⟩
    cases alone : Workflow.build setting (history.recordEach records) (some second) documents with
    | ok v => exact ⟨v, rfl⟩
    | error e =>
      rw [moved.of_error alone] at whole
      contradiction
  · exact ⟨moved.of_error refused, BuildError.sameClass_later _ _⟩

def signAgain : List StepItem :=
  [.step { process := .text "countersign", participants := some [.text "b"],
           signatureType := .int 1 }]

/-- Sending needs the signatures that come before it, which count in whatever order they are
recorded, and a second signature is refused at its place in the whole. -/
theorem agency_built_in_two_parts :
    ∃ w v, Workflow.build agency .empty (some (approveThenSign.take 2))
        (some [.int 10, .int 11]) = .ok w ∧
      (∃ e, Workflow.build agency .empty (some (approveThenSign.drop 2))
        (some [.int 10, .int 11]) = .error e) ∧
      Workflow.build agency
        (.recordEach .empty (agency.records w.documents (approveThenSign.take 2)).reverse)
        (some (approveThenSign.drop 2)) (some [.int 10, .int 11]) = .ok v ∧
      Workflow.build agency .empty (some approveThenSign) (some [.int 10, .int 11]) =
        .ok ⟨w.actors ++ [.int 4], w.documents,
          ⟨w.automaton.nodes ++ v.automaton.nodes.map (Node.later 2), 0⟩⟩ ∧
      Workflow.build agency .empty (some (approveThenSign.take 2 ++ signAgain))
        (some [.int 10, .int 11]) = .error (.repeatedAction 2 (.int 2) (.int 10) .signature) := by
  have reached : ∃ w v e, Workflow.build agency .empty (some (approveThenSign.take 2))
        (some [.int 10, .int 11]) = .ok w ∧
      Workflow.build agency .empty (some (approveThenSign.drop 2))
        (some [.int 10, .int 11]) = .error e ∧
      Workflow.build agency
        (.recordEach .empty (agency.records w.documents (approveThenSign.take 2)).reverse)
        (some (approveThenSign.drop 2)) (some [.int 10, .int 11]) = .ok v ∧
      Workflow.build agency
        (.recordEach .empty (agency.records w.documents (approveThenSign.take 2)).reverse)
        (some signAgain) (some [.int 10, .int 11]) =
          .error (.repeatedAction 0 (.int 2) (.int 10) .signature) ∧
      (v.actors.filter fun a => !w.actors.contains a) = [.int 4] :=
    ⟨_, _, _, rfl, rfl, rfl, rfl, rfl⟩
  obtain ⟨w, v, e, built, alone, sends, again, new⟩ := reached
  have perm := List.reverse_perm (agency.records w.documents (approveThenSign.take 2))
  have some_first : approveThenSign.take 2 ≠ [] := by simp [approveThenSign]
  have some_last : approveThenSign.drop 2 ≠ [] := by simp [approveThenSign]
  have some_again : signAgain ≠ [] := by simp [signAgain]
  obtain ⟨_, sending⟩ := built_in_two_parts agency .empty (some [.int 10, .int 11]) some_first
    some_last
  obtain ⟨_, signing⟩ := built_in_two_parts agency .empty (some [.int 10, .int 11]) some_first
    some_again
  have whole := (sending w built _ perm).2.1 v sends
  rw [List.take_append_drop, new] at whole
  exact ⟨w, v, built, ⟨e, alone⟩, sends, whole, ((signing w built _ perm).2.2 _ again).1⟩

end SignatureRouting
