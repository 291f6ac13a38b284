import SignatureRouting.Proofs.Grammar
import SignatureRouting.Proofs.Faults

/-!
How a build under a policy is refused. Whatever process, signature type and cardinality are
authored, the steps, the documents and the participants are to blame, and the refusal is one that
callers are told about; a role or a signing process without a rule is never come to. One thing
escapes, if nothing is refused before it: a number that is too long, be it a cardinality in more
digits than a numeral may have, or an integer that the refusal would have to show.
-/
namespace SignatureRouting
open Value

structure BuildError.IsReported (e : BuildError) : Prop where
  told : ∃ s, e.failure = .signing s ∧ s.className ∈ callerClasses
  ruled : ∀ tag, e ≠ .unknownSigningProcess tag

namespace BuildError
variable {e : BuildError}

theorem reported_or_long (blames : e.blamesCaller = true) :
    e.IsReported ∨ ∃ v ∈ e.shown, v.isWritable = false := by
  by_cases writable : ∀ v ∈ e.shown, v.isWritable = true
  · refine Or.inl ⟨(raisesIf blames).signing writable, ?_⟩
    rintro tag rfl
    cases blames
  · simp only [not_forall, Bool.not_eq_true] at writable
    obtain ⟨v, member, long⟩ := writable
    exact Or.inr ⟨v, member, long⟩

theorem reported_or_long_of_shown (blames : e.blamesCaller = true) {v : Value}
    (shows : e.shown = [v]) : e.IsReported ∨ v.isWritable = false := by
  refine (reported_or_long blames).imp_right ?_
  rintro ⟨w, member, long⟩
  rw [shows] at member
  exact List.mem_singleton.1 member ▸ long

theorem reported_of_nothing_shown (blames : e.blamesCaller = true) (shows : e.shown = []) :
    e.IsReported := by
  refine (reported_or_long blames).resolve_right ?_
  rintro ⟨v, member, _⟩
  rw [shows] at member
  cases member

theorem IsReported.not_overlong (told : e.IsReported) {o : Overlong} :
    e.failure ≠ .overlong o := by
  obtain ⟨⟨s, same, _⟩, _⟩ := told
  intro long
  cases same.symm.trans long

end BuildError

namespace Setting

/-- A number that is too long is come to at a step, where it is read or has to be shown, after what
was recorded before. -/
inductive OverlongAt (setting : Setting) (documents : List Value) (history : History) (place : Nat)
    (step : Step) : Overlong → Prop where
  | process (long : step.process.isWritable = false) :
      OverlongAt setting documents history place step .written
  | type (signs : setting.role place step = .ok (.standard .signature))
      (unknown : SignatureType.ofValue? step.signatureType = none)
      (long : step.signatureType.isWritable = false) :
      OverlongAt setting documents history place step .written
  | format {type : SignatureType} (signs : setting.role place step = .ok (.standard .signature))
      (known : SignatureType.ofValue? step.signatureType = some type)
      (clash : type.isCompatible setting.format = false)
      (long : setting.format.isWritable = false) :
      OverlongAt setting documents history place step .written
  | cardinality {role : StepRole} {actors : List Value} {raw : Value} {o : Overlong}
      (reached : setting.ReachesQuota place step role actors)
      (authored : step.cardinality = .authored raw) (exceeds : Cardinality.Exceeds raw o) :
      OverlongAt setting documents history place step o
  | unfit {role : StepRole} {actors : List Value} {n : Int}
      (reached : setting.ReachesQuota place step role actors)
      (settled : step.quota role (.int actors.length) = .ok (.int n))
      (unfit : quotaFits step.tag (.int n) actors.length = false)
      (long : isWithinLimit n = false) : OverlongAt setting documents history place step .written
  | history {plan : StepPlan} {e : BuildError} {v : Value}
      (planned : setting.plan place (.step step) = .ok plan)
      (conflict : History.carryOut place plan.role.recorded plan.actors documents history =
        .error e)
      (shows : v ∈ e.shown) (long : v.isWritable = false) :
      OverlongAt setting documents history place step .written

/-- A number that is too long is come to in a build: whatever is checked before it passes. -/
inductive ComesToOverlong (setting : Setting) (history : History) (items : List StepItem)
    (documents : List Value) : Overlong → Prop where
  | document {front back : List Value} {d : Value} (parts : documents = front ++ d :: back)
      (distinct : Distinct front) (again : front.contains d = true)
      (long : d.isWritable = false) : ComesToOverlong setting history items documents .written
  | step {place : Nat} {step : Step} {draft : Draft} {o : Overlong}
      (good : GoodDocuments documents)
      (earlier : Draft.addSteps setting documents 0 (items.take place) (.start history) =
        .ok draft)
      (here : items[place]? = some (.step step))
      (long : setting.OverlongAt documents draft.history place step o) :
      ComesToOverlong setting history items documents o

variable {setting : Setting} {policy : TagPolicy} {documents : List Value} {place : Nat}
  {step : Step} {e : BuildError}

theorem role_of_long (long : step.process.isWritable = false) :
    setting.role place step = .error (.overlong .written) := by
  rw [Setting.role, step.writesIf_tag?.failed long]
  rfl

theorem role_refused (refused : setting.role place step = .error e) :
    e.IsReported ∨ e = .overlong .written ∧ step.process.isWritable = false := by
  cases writable : step.process.isWritable with
  | false =>
    rw [role_of_long writable] at refused
    exact Or.inr ⟨(Except.error.inj refused).symm, rfl⟩
  | true =>
    left
    obtain ⟨tag, written⟩ := step.writesIf_tag?.made writable
    have bad : (BuildError.badProcess place step.process).IsReported :=
      (BuildError.reported_or_long_of_shown rfl rfl).resolve_right (by simp [writable])
    rw [Setting.role, written] at refused
    simp only [Except.mapError, bind, Except.bind] at refused
    split at refused
    · obtain rfl := Except.error.inj refused
      exact BuildError.reported_of_nothing_shown rfl rfl
    · obtain rfl := Except.error.inj refused
      exact bad
    · split at refused
      · obtain rfl := Except.error.inj refused
        exact bad
      · contradiction

theorem checkSignatureType_refused (signs : setting.role place step = .ok (.standard .signature))
    (history : History) (refused : setting.checkSignatureType place step = .error e) :
    e.IsReported ∨ setting.OverlongAt documents history place step .written := by
  unfold checkSignatureType at refused
  split at refused
  · rename_i unknown
    obtain rfl := Except.error.inj refused
    exact (BuildError.reported_or_long_of_shown rfl rfl).imp_right (.type signs unknown)
  · rename_i type known
    split at refused
    · contradiction
    · rename_i clash
      obtain rfl := Except.error.inj refused
      exact (BuildError.reported_or_long_of_shown rfl rfl).imp_right
        (.format signs known (Bool.eq_false_iff.2 clash))

theorem actors_reported {references : List Value} (given : step.participants = some references)
    (texts : ∀ r ∈ references, ∃ name, r = .text name)
    (named : ∀ entry ∈ setting.participants, entry.2.actor.isIdentifier = true) {role : Role}
    (refused : setting.actors place step (.standard role) = .error e) : e.IsReported := by
  have identifiers : ∀ r ∈ references, r.isIdentifier = true := by
    intro r member
    obtain ⟨name, rfl⟩ := texts r member
    rfl
  rcases actors_error_cases given identifiers refused with
    ⟨_, rfl⟩ | ⟨front, reference, back, parts, refuses⟩ | ⟨rfl, entry, inside, plain⟩
  · exact BuildError.reported_of_nothing_shown rfl rfl
  · obtain ⟨name, rfl⟩ := texts reference (parts ▸ List.mem_append_right _ List.mem_cons_self)
    have blames : e.blamesCaller = true := by cases refuses <;> rfl
    have short : ∀ v ∈ e.shown, v.isWritable = true := by
      cases refuses <;> simp [BuildError.shown, isWritable]
    refine (BuildError.reported_or_long blames).resolve_right ?_
    rintro ⟨v, member, long⟩
    cases (short v member).symm.trans long
  · cases (named entry inside).symm.trans plain

theorem quota_of_exceeds {raw : Value} {o : Overlong} (authored : step.cardinality = .authored raw)
    (exceeds : Cardinality.Exceeds raw o) (role : StepRole) (actors : Nat) :
    Setting.quota place step role actors = .error (.overlong o) := by
  have unread : step.cardinality.parse = .error (.overlong o) := by
    rw [authored]
    exact Cardinality.parse_of_exceeds exceeds
  simp only [Setting.quota, Step.quota, unread, bind, Except.bind, Except.mapError,
    BuildError.ofCardinality]

theorem quota_refused_or_overlong (authored : step.IsAuthored) {role : StepRole}
    {actors : List Value} (reached : setting.ReachesQuota place step role actors)
    (history : History) (refused : Setting.quota place step role actors.length = .error e) :
    e.IsReported ∨ ∃ o, setting.OverlongAt documents history place step o := by
  obtain ⟨raw, authored⟩ := authored
  have parse : step.cardinality.parse = Cardinality.parse raw := by rw [authored]; rfl
  rcases Cardinality.parse_cases raw with
    ⟨o, exceeds, _⟩ | ⟨_, ⟨c, _, read⟩ | ⟨_, shown, text, _, quotes, unread⟩⟩
  · exact Or.inr ⟨o, .cardinality reached authored exceeds⟩
  · obtain ⟨quota, settled⟩ :=
      Step.exists_quota (parse.trans read) (role_eq_ok reached.found).2.1 role _
    obtain ⟨n, rfl⟩ := Step.quota_int ⟨raw, authored⟩ settled
    obtain ⟨unfit, rfl⟩ := (quota_eq_error_iff settled).1 refused
    have shows : (BuildError.unfitCardinality place (.int n) step.tag).shown = [.int n] := rfl
    refine (BuildError.reported_or_long_of_shown rfl shows).imp_right ?_
    intro long
    rw [isWritable] at long
    exact ⟨_, .unfit reached settled unfit long⟩
  · left
    have failed : Setting.quota place step role actors.length = .error (.badCardinality shown) := by
      simp only [Setting.quota, Step.quota, parse, unread, bind, Except.bind, Except.mapError,
        BuildError.ofCardinality]
    obtain rfl := Except.error.inj (refused.symm.trans failed)
    have writable : shown.isWritable = true := (writesIf_quoted shown).eq_true quotes
    exact (BuildError.reported_or_long_of_shown rfl rfl).resolve_right (by simp [writable])

theorem plan_of_type (signs : setting.role place step = .ok (.standard .signature))
    (refused : setting.checkSignatureType place step = .error e) :
    setting.plan place (.step step) = .error e := by
  rw [plan, planStep, signs]
  simp only [bind, Except.bind, refused]

theorem plan_refused_or_overlong (policed : setting.resolver = policy.resolver)
    (listed : step.IsListed)
    (named : ∀ entry ∈ setting.participants, entry.2.actor.isIdentifier = true)
    (history : History) (refused : setting.plan place (.step step) = .error e) :
    e.IsReported ∨ ∃ o, setting.OverlongAt documents history place step o := by
  obtain ⟨authored, references, given, texts⟩ := listed
  rcases plan_error_cases refused with unfound | ⟨role, found, cause⟩
  · exact (role_refused unfound).imp_right fun ⟨_, long⟩ => ⟨_, .process long⟩
  · have resolves := (role_eq_ok found).1
    rw [policed] at resolves
    obtain ⟨r, rfl⟩ := TagPolicy.standard_of_resolve resolves
    rcases cause with ⟨signs, mistyped⟩ | unlisted | ⟨actors, reached, uncounted⟩
    · rw [signs] at found
      exact (checkSignatureType_refused found history mistyped).imp_right fun long => ⟨_, long⟩
    · exact Or.inl (actors_reported given texts named unlisted)
    · exact quota_refused_or_overlong authored reached history uncounted

theorem addStep_refused_or_overlong (policed : setting.resolver = policy.resolver)
    (listed : step.IsListed)
    (named : ∀ entry ∈ setting.participants, entry.2.actor.isIdentifier = true) {draft : Draft}
    (refused : draft.addStep setting documents place (.step step) = .error e) :
    e.IsReported ∨ ∃ o, setting.OverlongAt documents draft.history place step o := by
  rcases Draft.addStep_error_cases policed refused with unplanned | ⟨plan, planned, carrying⟩
  · exact plan_refused_or_overlong policed listed named _ unplanned
  · have conflict := History.conflict_of_carryOut (s := plan.duty) carrying
    refine (BuildError.reported_or_long conflict.blamesCaller).imp_right ?_
    rintro ⟨v, shows, long⟩
    exact ⟨_, .history planned carrying shows long⟩

theorem OverlongAt.addStep {draft : Draft} {o : Overlong}
    (long : setting.OverlongAt documents draft.history place step o) :
    ∃ e, draft.addStep setting documents place (.step step) = .error e ∧
      e.failure = .overlong o := by
  have of_plan : ∀ {e : BuildError}, setting.plan place (.step step) = .error e →
      draft.addStep setting documents place (.step step) = .error e :=
    fun refused => bind_eq_error.2 (Or.inl refused)
  cases long with
  | process long => exact ⟨_, of_plan (bind_eq_error.2 (Or.inl (role_of_long long))), rfl⟩
  | type signs unknown long =>
    have refused : setting.checkSignatureType place step =
        .error (.badSignatureType place step.signatureType) := by
      simp only [checkSignatureType, unknown]
    exact ⟨_, of_plan (plan_of_type signs refused),
      (BuildError.raisesIf rfl).overlong List.mem_cons_self long⟩
  | @format type signs known clash long =>
    have refused : setting.checkSignatureType place step =
        .error (.incompatibleSignature place type setting.format) := by
      simp only [checkSignatureType, known, clash, Bool.false_eq_true, if_false]
    exact ⟨_, of_plan (plan_of_type signs refused),
      (BuildError.raisesIf rfl).overlong List.mem_cons_self long⟩
  | cardinality reached authored exceeds =>
    exact ⟨_, of_plan (plan_of_quota reached (quota_of_exceeds authored exceeds _ _)), rfl⟩
  | unfit reached settled unfit long =>
    exact ⟨_, of_plan (plan_of_quota reached ((quota_eq_error_iff settled).2 ⟨unfit, rfl⟩)),
      (BuildError.raisesIf rfl).overlong List.mem_cons_self long⟩
  | @history plan e v planned carrying shows long =>
    have conflict := History.conflict_of_carryOut (s := plan.duty) carrying
    exact ⟨e, bind_eq_error.2 (Or.inr ⟨plan, planned, bind_eq_error.2 (Or.inl carrying)⟩),
      (BuildError.raisesIf conflict.blamesCaller).overlong shows long⟩

end Setting

theorem Setting.ComesToOverlong.build {setting : Setting} {history : History}
    {items : List StepItem} {documents : List Value}
    (identifiers : ∀ d ∈ documents, d.isIdentifier = true) {o : Overlong}
    (comes : setting.ComesToOverlong history items documents o) :
    ∃ e, Workflow.build setting history (some items) (some documents) = .error e ∧
      e.failure = .overlong o := by
  cases comes with
  | @document front back d parts distinct again long =>
    have given : documents ≠ [] := by
      rw [parts]
      exact List.append_ne_nil_of_right_ne_nil _ (List.cons_ne_nil d back)
    have refused := (Workflow.documentIds_eq_error_iff given identifiers).2
      ⟨front, d, back, parts, distinct, again, rfl⟩
    exact ⟨_, bind_eq_error.2 (Or.inl refused),
      (BuildError.raisesIf rfl).overlong List.mem_cons_self long⟩
  | step good earlier here long =>
    obtain ⟨e, refused, unsaid⟩ := long.addStep
    exact ⟨e, Workflow.build_of_refused good here earlier refused, unsaid⟩

/-- Under a policy a build is refused for what callers are told about, or at a number that is too
long, exactly if one is come to. -/
theorem build_reported_or_overlong {setting : Setting} {policy : TagPolicy}
    (policed : setting.resolver = policy.resolver) (history : History) {items : List StepItem}
    {documents : List Value} (listed : ∀ item ∈ items, ∃ step, item = .step step ∧ step.IsListed)
    (identifiers : ∀ d ∈ documents, d.isIdentifier = true)
    (named : ∀ entry ∈ setting.participants, entry.2.actor.isIdentifier = true) :
    ((∃ w, Workflow.build setting history (some items) (some documents) = .ok w) ∨
      (∃ e, Workflow.build setting history (some items) (some documents) = .error e ∧
        e.IsReported) ∨
      ∃ e o, Workflow.build setting history (some items) (some documents) = .error e ∧
        e.failure = .overlong o) ∧
    ∀ o, (∃ e, Workflow.build setting history (some items) (some documents) = .error e ∧
        e.failure = .overlong o) ↔ setting.ComesToOverlong history items documents o := by
  have refusal : ∀ e, Workflow.build setting history (some items) (some documents) = .error e →
      e.IsReported ∨ ∃ o, setting.ComesToOverlong history items documents o := by
    intro e refused
    rcases Workflow.build_error_cases identifiers refused with
      ⟨_, rfl⟩ | ⟨front, d, back, parts, distinct, again, rfl⟩ | ⟨_, rfl⟩ |
      ⟨good, place, item, draft, at_place, earlier, failed⟩
    · exact Or.inl (BuildError.reported_of_nothing_shown rfl rfl)
    · exact (BuildError.reported_or_long_of_shown rfl rfl).imp_right
        fun long => ⟨_, .document parts distinct again long⟩
    · exact Or.inl (BuildError.reported_of_nothing_shown rfl rfl)
    · obtain ⟨step, rfl, own⟩ := listed item (List.mem_of_getElem? at_place)
      exact (Setting.addStep_refused_or_overlong policed own named failed).imp_right
        fun ⟨o, long⟩ => ⟨o, .step good earlier at_place long⟩
  constructor
  · cases outcome : Workflow.build setting history (some items) (some documents) with
    | ok w => exact Or.inl ⟨w, rfl⟩
    | error e =>
      rcases refusal e outcome with told | ⟨o, comes⟩
      · exact Or.inr (Or.inl ⟨e, rfl, told⟩)
      · obtain ⟨f, refused, unsaid⟩ := comes.build identifiers
        obtain rfl := Except.error.inj (outcome.symm.trans refused)
        exact Or.inr (Or.inr ⟨e, o, rfl, unsaid⟩)
  · intro o
    constructor
    · rintro ⟨e, outcome, unsaid⟩
      rcases refusal e outcome with told | ⟨other, comes⟩
      · exact absurd unsaid told.not_overlong
      · obtain ⟨f, refused, same⟩ := comes.build identifiers
        obtain rfl := Except.error.inj (outcome.symm.trans refused)
        obtain rfl := Failure.overlong.inj (unsaid.symm.trans same)
        exact comes
    · exact fun comes => comes.build identifiers

/-- One signer has to sign, as a numeral with thousands of leading zeros says. -/
def paddedOne : String := String.ofList (List.replicate 4300 '0' ++ ['1'])

def paddedStep : Step where
  process := .text "cosign"
  participants := some [.text "b"]
  signatureType := .int 1
  cardinality := .authored (.text paddedOne)

def numberedStep : Step where
  process := .int leastOverlong
  participants := some [.text "b"]

theorem comes_to_first {step : Step} {o : Overlong}
    (long : agency.OverlongAt [.int 10] .empty 0 step o) :
    agency.ComesToOverlong .empty [.step step] [.int 10] o := by
  have good : GoodDocuments [.int 10] := ⟨by decide, List.nodup_singleton _, by decide⟩
  have earlier : Draft.addSteps agency [.int 10] 0 ([StepItem.step step].take 0) (.start .empty) =
    .ok (.start .empty) := rfl
  exact .step good earlier rfl long

theorem paddedStep_overlong : agency.OverlongAt [.int 10] .empty 0 paddedStep (.read 4301) := by
  have one : Nat.toDigits 10 1 = ['1'] := by decide
  have padded := Cardinality.padded_alone 4300 1
  have unread := Cardinality.parse_padded (List.forall_mem_nil _) (List.forall_mem_nil _) 4300 1
    (Nat.le_refl 1)
  rw [one, if_neg (by decide), padded, one] at unread
  have reached : agency.ReachesQuota 0 paddedStep (.standard .signature) [.int 2] :=
    ⟨rfl, fun _ => rfl, rfl⟩
  exact .cardinality reached rfl (Cardinality.parse_eq_overlong_iff.1 unread)

theorem build_reported_or_overlong_padded :
    paddedStep.IsListed ∧
      ∃ e, Workflow.build agency .empty (some [.step paddedStep]) (some [.int 10]) = .error e ∧
        e.failure = .overlong (.read 4301) := by
  have policed : agency.resolver = TagPolicy.builtIn.resolver := rfl
  have own : paddedStep.IsListed := ⟨⟨_, rfl⟩, _, rfl, by simp⟩
  have listed : ∀ item ∈ [StepItem.step paddedStep], ∃ step, item = .step step ∧ step.IsListed :=
    List.forall_mem_singleton.2 ⟨_, rfl, own⟩
  have identifiers : ∀ d ∈ [Value.int 10], d.isIdentifier = true := by decide
  have exactly := (build_reported_or_overlong policed .empty listed identifiers (by decide)).2
  exact ⟨own, (exactly _).2 (comes_to_first paddedStep_overlong)⟩

theorem padded_signing_not_reported :
    ¬ ((∃ w, Workflow.build agency .empty (some [.step paddedStep]) (some [.int 10]) = .ok w) ∨
      ∃ e, Workflow.build agency .empty (some [.step paddedStep]) (some [.int 10]) = .error e ∧
        e.IsReported) ∧
    ¬ ((∃ w, Workflow.build agency .empty (some [.step numberedStep]) (some [.int 10]) = .ok w) ∨
      ∃ e, Workflow.build agency .empty (some [.step numberedStep]) (some [.int 10]) = .error e ∧
        e.IsReported) := by
  have escapes : ∀ step o, agency.OverlongAt [.int 10] .empty 0 step o →
      ¬ ((∃ w, Workflow.build agency .empty (some [.step step]) (some [.int 10]) = .ok w) ∨
        ∃ e, Workflow.build agency .empty (some [.step step]) (some [.int 10]) = .error e ∧
          e.IsReported) := by
    intro step o long
    obtain ⟨f, refused, unsaid⟩ := (comes_to_first long).build (by decide)
    rintro (⟨w, built⟩ | ⟨e, other, told⟩)
    · cases refused.symm.trans built
    · obtain rfl := Except.error.inj (refused.symm.trans other)
      exact told.not_overlong unsaid
  exact ⟨escapes _ _ paddedStep_overlong,
    escapes _ _ (.process isWithinLimit_leastOverlong)⟩

end SignatureRouting
