import SignatureRouting.Proofs.Faults
import SignatureRouting.Proofs.Shape

/-!
Scenarios that pass their check. The check collects complaints about the scenario as it is authored,
and a build stops at the first fault it finds, but both ask for the same shape: a scenario without
complaints is never refused for its shape. What is left to refuse it is what the scenario does not
show: a document that is given twice, the participants it refers to, and what was done before.
-/
namespace SignatureRouting
open Value

inductive BuildError.FaultsShape : BuildError → Prop where
  | no_document : FaultsShape noDocument
  | no_step : FaultsShape noStep
  | missing (place : Nat) : FaultsShape (missingProcess place)
  | process (place : Nat) (process : Value) : FaultsShape (badProcess place process)
  | type (place : Nat) (authored : Value) : FaultsShape (badSignatureType place authored)
  | incompatible (place : Nat) (type : SignatureType) (format : Value) :
      FaultsShape (incompatibleSignature place type format)
  | no_participant (place : Nat) : FaultsShape (noParticipant place)
  | cardinality (shown : Value) : FaultsShape (badCardinality shown)
  | overlong (o : Overlong) : FaultsShape (overlong o)
  | unknown (tag : String) : FaultsShape (unknownSigningProcess tag)
  | scenario (e : ScenarioError) : FaultsShape (scenario e)

/-- What can stand in the way of steps that are well shaped: not how they are authored, but which
documents they are over, whom they refer to, and what was done before. -/
inductive Setting.Prevents (setting : Setting) (items : List StepItem) (documents : List Value) :
    BuildError → Prop where
  | document {front back : List Value} {d : Value} (parts : documents = front ++ d :: back)
      (again : front.contains d = true) : Prevents setting items documents (.repeatedDocument d)
  | unknown {place : Nat} {step : Step} {reference : Value}
      (listed : items[place]? = some (.step step)) (refers : reference ∈ step.participants.getD [])
      (nobody : setting.participant? reference = none) :
      Prevents setting items documents (.unknownParticipant reference)
  | twice {place : Nat} {step : Step} {front back : List Value} {reference other : Value}
      {p q : Participant} (listed : items[place]? = some (.step step))
      (refers : step.participants = some (front ++ reference :: back)) (earlier : other ∈ front)
      (first : setting.participant? other = some p)
      (second : setting.participant? reference = some q) (same : (q.actor == p.actor) = true) :
      Prevents setting items documents (.repeatedParticipant place reference)
  | entitlement {place : Nat} {step : Step} {reference : Value} {p : Participant} {role : Role}
      (listed : items[place]? = some (.step step)) (refers : reference ∈ step.participants.getD [])
      (known : setting.participant? reference = some p)
      (resolves : setting.resolver.resolve step.process = .found (.standard role))
      (refused : setting.resolver.isEntitled (.standard role) (.text step.tag) p.roleTags = false) :
      Prevents setting items documents (.notEntitled reference step.tag role)
  | quota {place : Nat} {step : Step} {role : Role} {quota : Value}
      (listed : items[place]? = some (.step step))
      (resolves : setting.resolver.resolve step.process = .found (.standard role))
      (settled : step.quota (.standard role) (.int (step.participants.getD []).length) = .ok quota)
      (unfit : quotaFits step.tag quota (step.participants.getD []).length = false) :
      Prevents setting items documents (.unfitCardinality place quota step.tag)
  | history {place : Nat} {step : Step} {plan : StepPlan} {e : BuildError}
      (listed : items[place]? = some (.step step))
      (planned : setting.plan place (.step step) = .ok plan)
      (conflict : e.ConflictAt place plan.duty documents) : Prevents setting items documents e

namespace Setting

theorem Prevents.blamesCaller {setting : Setting} {items : List StepItem} {documents : List Value}
    {e : BuildError} (prevents : setting.Prevents items documents e) : e.blamesCaller = true := by
  cases prevents with
  | history _ _ conflict => exact conflict.blamesCaller
  | _ => rfl

theorem Prevents.not_faultsShape {setting : Setting} {items : List StepItem}
    {documents : List Value} {e : BuildError} (prevents : setting.Prevents items documents e) :
    ¬ e.FaultsShape := by
  intro faults
  cases prevents with
  | history _ _ conflict => cases conflict <;> cases faults
  | _ => cases faults

end Setting

theorem SignatureType.ofValue?_of_setting {v : Value} {type : SignatureType}
    (read : ofSetting? v = some type) : ofValue? v = some type := by
  cases v with
  | bool b => contradiction
  | _ => exact read

namespace Setting

section Shaped
variable {setting : Setting} {policy : TagPolicy} {items : List StepItem} {documents : List Value}
  {place : Nat} {step : Step} {references : List Value} {e : BuildError}
  (shaped : step.WellShaped setting.resolver setting.format)

section Role
variable (policed : setting.resolver = policy.resolver)
include shaped policed

theorem role_of_wellShaped (place : Nat) :
    ∃ role, setting.resolver.resolve step.process = .found (.standard role) ∧
    setting.role place step = .ok (.standard role) := by
  obtain ⟨found, resolves⟩ := shaped.process
  have standard := resolves
  rw [policed] at standard
  obtain ⟨role, rfl⟩ := TagPolicy.standard_of_resolve standard
  obtain ⟨tag, written, other⟩ := shaped.tag
  refine ⟨role, resolves, ?_⟩
  rw [Setting.role, written, resolves]
  exact if_neg other

end Role

include shaped

theorem checkSignatureType_of_wellShaped (place : Nat)
    (signs : setting.resolver.resolve step.process = .found (.standard .signature)) :
    setting.checkSignatureType place step = .ok () := by
  obtain ⟨type, read, fits⟩ := shaped.signature signs
  simp only [checkSignatureType, SignatureType.ofValue?_of_setting read, if_pos fits]

variable (listed : items[place]? = some (.step step)) (given : step.participants = some references)
include listed given

theorem actors_refused (identifiers : ∀ r ∈ references, r.isIdentifier = true) {role : Role}
    (resolves : setting.resolver.resolve step.process = .found (.standard role))
    (refused : setting.actors place step (.standard role) = .error e) :
    setting.Prevents items documents e ∨ e = .misuse .notIdentifier ∧ setting.HasUnnamedActor := by
  rcases actors_error_cases given identifiers refused with
    ⟨nobody, _⟩ | ⟨front, reference, back, parts, refuses⟩ | unnamed
  · exact absurd (given.trans (congrArg some nobody)) shaped.participants
  · have among : reference ∈ step.participants.getD [] := by
      rw [given, parts]
      exact List.mem_append_right _ List.mem_cons_self
    left
    cases refuses with
    | unknown nobody => exact .unknown listed among nobody
    | twice earlier first second same =>
      exact .twice listed (given.trans (congrArg some parts)) earlier first second same
    | barred known barred => exact .entitlement listed among known resolves barred
  · exact Or.inr unnamed

theorem quota_refused (authored : step.IsAuthored) {role : Role} {actors : List Value}
    (resolves : setting.resolver.resolve step.process = .found (.standard role))
    (named : references.map setting.actor? = actors.map some)
    (refused : Setting.quota place step (.standard role) actors.length = .error e) :
    setting.Prevents items documents e := by
  have count : actors.length = (step.participants.getD []).length := by
    have lengths := congrArg List.length named
    rw [List.length_map, List.length_map] at lengths
    rw [given, Option.getD_some, lengths]
  obtain ⟨parsed, read⟩ := shaped.cardinality
  obtain ⟨_, written, _⟩ := shaped.tag
  obtain ⟨quota, settled⟩ := Step.exists_quota read written (.standard role) (.int actors.length)
  obtain ⟨n, rfl⟩ := Step.quota_int authored settled
  obtain ⟨unfit, rfl⟩ := (quota_eq_error_iff settled).1 refused
  rw [count] at settled unfit
  exact .quota listed resolves settled unfit

theorem plan_refused (policed : setting.resolver = policy.resolver) (authored : step.IsAuthored)
    (identifiers : ∀ r ∈ references, r.isIdentifier = true)
    (refused : setting.plan place (.step step) = .error e) :
    setting.Prevents items documents e ∨ e = .misuse .notIdentifier ∧ setting.HasUnnamedActor := by
  obtain ⟨role, resolves, found⟩ := role_of_wellShaped shaped policed place
  rcases plan_error_cases refused with unfound | ⟨other, same, cause⟩
  · cases found.symm.trans unfound
  · obtain rfl := Except.ok.inj (found.symm.trans same)
    rcases cause with ⟨signs, mistyped⟩ | unlisted | ⟨actors, reached, uncounted⟩
    · rw [signs] at resolves
      cases (checkSignatureType_of_wellShaped shaped place resolves).symm.trans mistyped
    · exact actors_refused shaped listed given identifiers resolves unlisted
    · obtain ⟨others, same, named⟩ := actors_named reached.listed
      obtain rfl := Option.some.inj (given.symm.trans same)
      exact Or.inl (quota_refused shaped listed given authored resolves named uncounted)

theorem addStep_refused (policed : setting.resolver = policy.resolver) (authored : step.IsAuthored)
    (identifiers : ∀ r ∈ references, r.isIdentifier = true) {draft : Draft}
    (refused : draft.addStep setting documents place (.step step) = .error e) :
    setting.Prevents items documents e ∨ e = .misuse .notIdentifier ∧ setting.HasUnnamedActor := by
  rcases Draft.addStep_error_cases policed refused with unplanned | ⟨plan, planned, carrying⟩
  · exact plan_refused shaped listed given policed authored identifiers unplanned
  · exact Or.inl (.history listed planned (History.conflict_of_carryOut (s := plan.duty) carrying))

end Shaped

end Setting

theorem Workflow.buildScenario_of_passes {resolver : Resolver}
    {participants : List (String × Participant)} {history : History} {scenario : Scenario}
    (passes : scenario.check resolver = .ok ()) :
    buildScenario resolver participants history scenario =
      build ⟨resolver, participants, scenario.formatNumber⟩ history scenario.steps
        scenario.documents := by
  rw [buildScenario, passes]
  rfl

theorem build_of_wellShaped (setting : Setting) (history : History) {policy : TagPolicy}
    {items : List StepItem} {documents : List Value}
    (policed : setting.resolver = policy.resolver) (some_item : items ≠ [])
    (some_document : documents ≠ []) (identifiers : ∀ d ∈ documents, d.isIdentifier = true)
    (shaped : ∀ item ∈ items, ∃ step, item = .step step ∧
      step.WellShaped setting.resolver setting.format)
    (authored : ∀ step, .step step ∈ items → step.IsListed) :
    (∃ w, Workflow.build setting history (some items) (some documents) = .ok w) ∨
      ∃ e, Workflow.build setting history (some items) (some documents) = .error e ∧
        (setting.Prevents items documents e ∨
          e = .misuse .notIdentifier ∧ setting.HasUnnamedActor) := by
  cases outcome : Workflow.build setting history (some items) (some documents) with
  | ok w => exact Or.inl ⟨w, rfl⟩
  | error e =>
    refine Or.inr ⟨e, rfl, ?_⟩
    rcases Workflow.build_error_cases identifiers outcome with
      ⟨none, _⟩ | ⟨front, d, back, parts, _, again, rfl⟩ | ⟨none, _⟩ |
      ⟨_, place, item, draft, listed, _, refused⟩
    · exact absurd none some_document
    · exact Or.inl (.document parts again)
    · exact absurd none some_item
    · have member := List.mem_of_getElem? listed
      obtain ⟨step, rfl, well⟩ := shaped item member
      obtain ⟨raw, references, given, named⟩ := authored step member
      have plain : ∀ r ∈ references, r.isIdentifier = true := by
        intro r among
        obtain ⟨name, rfl⟩ := named r among
        rfl
      exact Setting.addStep_refused well listed given policed raw plain refused

/-- A scenario that passes its check is built, or is refused for what its shape does not show, by an
error that callers are told about if its message can be written. -/
theorem checked_scenario_built_unless_prevented (policy : TagPolicy)
    (participants : List (String × Participant)) (history : History) {scenario : Scenario}
    {items : List StepItem} {documents : List Value} (given : scenario.documents = some documents)
    (listing : scenario.steps = some items) (identifiers : ∀ d ∈ documents, d.isIdentifier = true)
    (authored : ∀ step, .step step ∈ items → step.IsListed)
    (passes : scenario.check policy.resolver = .ok ()) :
    (∃ w, Workflow.buildScenario policy.resolver participants history scenario = .ok w) ∨
      ∃ e, Workflow.buildScenario policy.resolver participants history scenario = .error e ∧
        ¬ e.FaultsShape ∧
        (Setting.Prevents ⟨policy.resolver, participants, scenario.formatNumber⟩ items documents e ∧
            ((∀ v ∈ e.shown, v.isWritable = true) →
              ∃ s, e.failure = .signing s ∧ s.className ∈ BuildError.callerClasses) ∨
          e = .misuse .notIdentifier ∧
            Setting.HasUnnamedActor ⟨policy.resolver, participants, scenario.formatNumber⟩) := by
  obtain ⟨others, same, shaped⟩ := Scenario.check_eq_ok_iff.1 passes
  obtain rfl := Option.some.inj (listing.symm.trans same)
  have some_document : documents ≠ [] := by
    rintro rfl
    exact shaped.documents given
  rw [Workflow.buildScenario_of_passes passes, given, listing]
  rcases build_of_wellShaped ⟨policy.resolver, participants, scenario.formatNumber⟩ history rfl
      shaped.some_step some_document identifiers shaped.each authored with
    built | ⟨e, refused, prevents | ⟨rfl, unnamed⟩⟩
  · exact Or.inl built
  · exact Or.inr ⟨e, refused, prevents.not_faultsShape,
      Or.inl ⟨prevents, (BuildError.raisesIf prevents.blamesCaller).signing⟩⟩
  · exact Or.inr ⟨_, refused, by rintro ⟨⟩, Or.inr ⟨rfl, unnamed⟩⟩

def signThenApprove : Scenario where
  documents := some [.int 10]
  steps := some
    [.step { process := .text "Countersign", participants := some [.text "b", .text "c"],
             signatureType := .float (.finite false 1 0), cardinality := .authored (.text "all") },
     .step { process := .text "approval", participants := some [.text "a"] }]
  format := .int 1
  level := .int 2

theorem signThenApprove_prevented :
    ∃ e, Workflow.buildScenario TagPolicy.builtIn.resolver agency.participants .empty
        signThenApprove = .error e ∧ ¬ e.FaultsShape ∧
      Setting.Prevents ⟨TagPolicy.builtIn.resolver, agency.participants, .int 1⟩
        (signThenApprove.steps.getD []) [.int 10] e ∧
      ∃ s, e.failure = .signing s ∧ s.className ∈ BuildError.callerClasses := by
  have authored : ∀ step, .step step ∈ signThenApprove.steps.getD [] → step.IsListed := by
    intro step member
    simp only [signThenApprove, Option.getD_some, List.mem_cons, StepItem.step.injEq,
      List.not_mem_nil, or_false] at member
    rcases member with rfl | rfl
    · exact ⟨⟨_, rfl⟩, _, rfl, by simp⟩
    · exact ⟨⟨_, rfl⟩, _, rfl, by simp⟩
  have passes : signThenApprove.check TagPolicy.builtIn.resolver = .ok () := rfl
  have given : signThenApprove.documents = some [.int 10] := rfl
  have refused : Workflow.buildScenario TagPolicy.builtIn.resolver agency.participants .empty
      signThenApprove = .error (.alreadySigned 1 (.int 10)) := rfl
  rcases checked_scenario_built_unless_prevented TagPolicy.builtIn agency.participants .empty given
      rfl (by decide) authored passes with ⟨w, built⟩ | ⟨e, same, shaped, prevented | ⟨misused, _⟩⟩
  · cases refused.symm.trans built
  · obtain rfl := Except.error.inj (refused.symm.trans same)
    exact ⟨_, refused, shaped, prevented.1, prevented.2 (by decide)⟩
  · obtain rfl := Except.error.inj (refused.symm.trans same)
    cases misused

def oneSigner (cardinality : Value) : Step where
  process := .text "cosign"
  participants := some [.text "b"]
  signatureType := .int 1
  cardinality := .authored cardinality

def signedOnce (cardinality : Value) : Scenario where
  documents := some [.int 10]
  steps := some [.step (oneSigner cardinality)]
  format := .int 1
  level := .int 2

/-- A list cannot stand for an actor, and a cardinality cannot be refused in a message if its number
is too long. -/
theorem passed_scenario_refused_otherwise :
    (signedOnce .null).check TagPolicy.builtIn.resolver = .ok () ∧
    Workflow.buildScenario TagPolicy.builtIn.resolver
      [("b", ⟨.list [.int 2], [.text "sign"]⟩)] .empty (signedOnce .null) =
        .error (.misuse .notIdentifier) ∧
    (signedOnce (.int leastOverlong)).check TagPolicy.builtIn.resolver = .ok () ∧
    ∃ e, Workflow.buildScenario TagPolicy.builtIn.resolver agency.participants .empty
        (signedOnce (.int leastOverlong)) = .error e ∧ ∀ s, e.failure ≠ .signing s := by
  have read : (oneSigner (.int leastOverlong)).cardinality.parse =
      .ok (some (.exact (.int leastOverlong))) := by
    have some := leastOverlong_pos
    rw [oneSigner, Cardinality.Source.parse, Cardinality.parse, Cardinality.positive,
      if_pos (by omega)]
    rfl
  have passes : (signedOnce (.int leastOverlong)).check TagPolicy.builtIn.resolver = .ok () := by
    refine Scenario.check_eq_ok_iff.2 ⟨_, rfl, by decide, by decide, by simp [signedOnce],
      List.cons_ne_nil _ _, List.forall_mem_singleton.2 ⟨_, rfl, ?_⟩⟩
    exact ⟨⟨_, rfl⟩, ⟨_, rfl, by decide⟩, fun _ => ⟨_, rfl, rfl⟩, ⟨_, read⟩, by simp [oneSigner]⟩
  have unfit : Setting.quota 0 (oneSigner (.int leastOverlong)) (.standard .signature) 1 =
      .error (.unfitCardinality 0 (.int leastOverlong) "cosign") := by
    have settled : (oneSigner (.int leastOverlong)).quota (.standard .signature) (.int 1) =
      .ok (.int leastOverlong) := bind_eq_ok.2 ⟨_, read, rfl⟩
    have outside : Setting.quotaFits "cosign" (.int leastOverlong) 1 = false := by decide +kernel
    exact (Setting.quota_eq_error_iff settled).2 ⟨outside, rfl⟩
  have reached : Setting.ReachesQuota ⟨TagPolicy.builtIn.resolver, agency.participants, .int 1⟩ 0
      (oneSigner (.int leastOverlong)) (.standard .signature) [.int 2] :=
    ⟨rfl, fun _ => rfl, rfl⟩
  refine ⟨rfl, rfl, passes, .unfitCardinality 0 (.int leastOverlong) "cosign", ?_, ?_⟩
  · have good : GoodDocuments [.int 10] := ⟨by decide, List.nodup_singleton _, by decide⟩
    rw [Workflow.buildScenario_of_passes passes]
    exact Workflow.build_of_refused good rfl rfl
      (bind_eq_error.2 (Or.inl (Setting.plan_of_quota reached unfit)))
  · have raises := BuildError.raisesIf
      (e := .unfitCardinality 0 (.int leastOverlong) "cosign") rfl
    have unsaid := raises.overlong List.mem_cons_self isWithinLimit_leastOverlong
    intro s told
    cases unsaid.symm.trans told

end SignatureRouting
