import SignatureRouting.Proofs.Classification
import SignatureRouting.Proofs.Compilation

/-!
Where a build stops. It stops at the first fault it finds, so a refusal comes from one phase, and
all that is before it has passed: the documents, then step by step the role, the signature type,
the participants, the quota, and what was done before. Nodes can be made for every step that gets
this far under a policy. Most faults are the caller's, and their messages can be written unless a
number that they show is too long.
-/
namespace SignatureRouting
open Value

namespace TagPolicy
variable {policy : TagPolicy}

theorem belongs_of_resolveTag {tag : String} {r : Resolution} (found : policy.resolveTag tag = r) :
    policy.Belongs tag r := by
  subst found
  exact policy.belongs_resolveTag tag

theorem belongs_of_found {v : Value} {role : StepRole} (found : policy.resolve v = .found role) :
    ∃ s, v = .text s ∧ policy.Belongs (normalize s) (.found role) := by
  cases v with
  | text s =>
    have same : policy.resolveTag (normalize s) = .found role := found
    exact ⟨s, rfl, belongs_of_resolveTag same⟩
  | _ => cases found

theorem standard_of_resolve {v : Value} {role : StepRole} (found : policy.resolve v = .found role) :
    ∃ r, role = .standard r := by
  obtain ⟨s, _, belongs⟩ := belongs_of_found found
  cases role with
  | standard r => exact ⟨r, rfl⟩
  | foreign _ => cases belongs

theorem shared_or_sequential {step : Step}
    (signs : policy.resolve step.process = .found (.standard .signature))
    (no_sign : step.tag ≠ Tag.sign) :
    Tag.isShared step.tag = true ∨ Tag.isSequential step.tag = true := by
  obtain ⟨s, process, among⟩ := belongs_of_found signs
  have tag : step.tag = normalize s := Step.tag_of_tag? (by rw [Step.tag?, process]; rfl)
  rw [← tag] at among
  simp only [Belongs, Tag.signatureTags, List.mem_cons, List.not_mem_nil, or_false] at among
  rcases among with same | same | same | same | same
  · exact absurd same no_sign
  · exact Or.inl (by rw [same]; decide)
  · exact Or.inr (by rw [same]; decide)
  · exact Or.inr (by rw [same]; decide)
  · exact Or.inl (by rw [same]; decide)

end TagPolicy

namespace BuildError

def callerClasses : List String :=
  ["BadRequestError", "ParticipantNotFoundError", "ActorPermissionError", "ConflictError"]

def blamesCaller : BuildError → Bool
  | unknownSigningProcess _ => false
  | foreignRole _ _ => false
  | scenario _ => false
  | overlong _ => false
  | misuse _ => false
  | _ => true

theorem raisesIf {e : BuildError} (blames : e.blamesCaller = true) :
    e.failure.RaisesIf (e.shown.all isWritable) (·.className ∈ callerClasses) := by
  have badRequest : ∀ {m : Except Overlong String} {p : Bool}, WritesIf m p →
      (BuildError.badRequest m).RaisesIf p (·.className ∈ callerClasses) := fun writes =>
    Failure.raisesIf_ofMessage writes _ fun m _ => by simp [SigningError.className, Category.name,
      callerClasses]
  have conflict : ∀ {m : Except Overlong String} {p : Bool}, WritesIf m p →
      (BuildError.conflict m).RaisesIf p (·.className ∈ callerClasses) := fun writes =>
    Failure.raisesIf_ofMessage writes _ fun m _ => by simp [SigningError.className, Category.name,
      callerClasses]
  cases e with
  | noDocument => exact badRequest (.pure _)
  | noStep => exact badRequest (.pure _)
  | missingProcess _ => exact badRequest (.pure _)
  | noParticipant _ => exact badRequest (.pure _)
  | badProcess _ _ => exact badRequest ((writesIf_written _).bind fun _ => .pure _)
  | badSignatureType _ _ => exact badRequest ((writesIf_written _).bind fun _ => .pure _)
  | repeatedParticipant _ _ => exact badRequest ((writesIf_written _).bind fun _ => .pure _)
  | badCardinality _ => exact badRequest ((writesIf_quoted _).bind fun _ => .pure _)
  | repeatedDocument _ => exact conflict ((writesIf_written _).bind fun _ => .pure _)
  | incompatibleSignature _ _ _ => exact conflict ((writesIf_written _).bind fun _ => .pure _)
  | unfitCardinality _ _ _ => exact conflict ((writesIf_written _).bind fun _ => .pure _)
  | alreadySigned _ _ => exact conflict ((writesIf_written _).bind fun _ => .pure _)
  | notSigned _ _ => exact conflict ((writesIf_written _).bind fun _ => .pure _)
  | repeatedAction _ _ _ _ =>
    exact conflict ((writesIf_written _).bind fun _ => (writesIf_written _).bind fun _ => .pure _)
  | unknownParticipant _ =>
    exact Failure.raisesIf_raised _ (by simp [SigningError.className, callerClasses])
  | notEntitled _ _ _ =>
    exact Failure.raisesIf_raised _ (by simp [SigningError.className, callerClasses])
  | _ => cases blames

theorem ConflictAt.blamesCaller {place : Nat} {s : Duty} {documents : List Value} {e : BuildError}
    (conflict : e.ConflictAt place s documents) : e.blamesCaller = true := by
  cases conflict <;> rfl

end BuildError

namespace Workflow

theorem checkDocuments_eq_error_iff {seen documents : List Value} {e : BuildError}
    (known : Distinct seen) (identifiers : ∀ d ∈ documents, d.isIdentifier = true) :
    checkDocuments seen documents = .error e ↔ ∃ front d back, documents = front ++ d :: back ∧
      Distinct (seen ++ front) ∧ (seen ++ front).contains d = true ∧ e = .repeatedDocument d := by
  induction documents generalizing seen with
  | nil => simp [checkDocuments]
  | cons d rest ih =>
    obtain ⟨identifier, later⟩ := List.forall_mem_cons.1 identifiers
    rw [checkDocuments, identifier]
    simp only [Bool.not_true, Bool.false_eq_true, if_false]
    cases again : seen.contains d with
    | true =>
      rw [if_pos rfl]
      constructor
      · intro refused
        exact ⟨[], d, rest, rfl, by rwa [List.append_nil], by rwa [List.append_nil],
          (Except.error.inj refused).symm⟩
      · rintro ⟨front, other, back, parts, distinct, _, rfl⟩
        cases front with
        | nil => rw [(List.cons.inj parts).1]
        | cons first front =>
          obtain ⟨rfl, _⟩ := List.cons.inj parts
          have unseen := distinct.apart List.mem_cons_self
          rw [again] at unseen
          cases unseen
    | false =>
      rw [if_neg Bool.false_ne_true, ih (distinct_append_one known again) later]
      constructor
      · rintro ⟨front, other, back, rfl, distinct, twice, rfl⟩
        rw [List.append_assoc, List.singleton_append] at distinct twice
        exact ⟨d :: front, other, back, rfl, distinct, twice, rfl⟩
      · rintro ⟨front, other, back, parts, distinct, twice, rfl⟩
        cases front with
        | nil =>
          obtain ⟨rfl, _⟩ := List.cons.inj parts
          rw [List.append_nil, again] at twice
          cases twice
        | cons first front =>
          obtain ⟨rfl, rfl⟩ := List.cons.inj parts
          refine ⟨front, other, back, rfl, ?_, ?_, rfl⟩
          · rwa [List.append_assoc, List.singleton_append]
          · rwa [List.append_assoc, List.singleton_append]

theorem documentIds_eq_error_iff {documents : List Value} {e : BuildError}
    (given : documents ≠ []) (identifiers : ∀ d ∈ documents, d.isIdentifier = true) :
    documentIds (some documents) = .error e ↔ ∃ front d back, documents = front ++ d :: back ∧
      Distinct front ∧ front.contains d = true ∧ e = .repeatedDocument d := by
  have checks := checkDocuments_eq_error_iff (e := e) distinct_nil identifiers
  simp only [List.nil_append] at checks
  rw [← checks]
  obtain ⟨d, rest, rfl⟩ := List.exists_cons_of_ne_nil given
  simp only [documentIds]
  cases checkDocuments [] (d :: rest) <;> simp [Except.map]

end Workflow

namespace Setting

/-- Why a reference is refused after some that stand for the actors so far. -/
inductive RefusesReference (setting : Setting) (place : Nat) (role : Role) (tag : String)
    (front : List Value) (reference : Value) : BuildError → Prop where
  | unknown (nobody : setting.participant? reference = none) :
      RefusesReference setting place role tag front reference (.unknownParticipant reference)
  | twice {other : Value} {p q : Participant} (earlier : other ∈ front)
      (first : setting.participant? other = some p)
      (second : setting.participant? reference = some q) (same : (q.actor == p.actor) = true) :
      RefusesReference setting place role tag front reference (.repeatedParticipant place reference)
  | barred {p : Participant} (known : setting.participant? reference = some p)
      (refused : setting.resolver.isEntitled (.standard role) (.text tag) p.roleTags = false) :
      RefusesReference setting place role tag front reference (.notEntitled reference tag role)

theorem actorsAfter_refused {setting : Setting} {place : Nat} {role : Role} {tag : String}
    {before references : List Value} {e : BuildError} (earlier : List Value)
    (named : ∀ v ∈ before, ∃ other ∈ earlier, ∃ p,
      setting.participant? other = some p ∧ p.actor = v)
    (identifiers : ∀ r ∈ references, r.isIdentifier = true)
    (refused : setting.actorsAfter place (.standard role) tag before references = .error e) :
    ∃ front reference back, earlier ++ references = front ++ reference :: back ∧
      setting.RefusesReference place role tag front reference e := by
  induction references generalizing before earlier with
  | nil => contradiction
  | cons reference rest ih =>
    obtain ⟨identifier, later⟩ := List.forall_mem_cons.1 identifiers
    rw [actorsAfter, identifier] at refused
    simp only [Bool.not_true, Bool.false_eq_true, if_false] at refused
    split at refused
    · rename_i nobody
      obtain rfl := Except.error.inj refused
      exact ⟨earlier, reference, rest, rfl, .unknown nobody⟩
    · rename_i q known
      split at refused
      · rename_i used
        obtain rfl := Except.error.inj refused
        obtain ⟨v, member, same⟩ := exists_same_of_contains used
        obtain ⟨other, among, p, first, rfl⟩ := named v member
        exact ⟨earlier, reference, rest, rfl, .twice among first known same⟩
      · split at refused
        · rename_i barred
          obtain rfl := Except.error.inj refused
          rw [Bool.not_eq_true'] at barred
          exact ⟨earlier, reference, rest, rfl, .barred known barred⟩
        · have grown : ∀ v ∈ before ++ [q.actor], ∃ other ∈ earlier ++ [reference], ∃ p,
              setting.participant? other = some p ∧ p.actor = v := by
            intro v member
            rcases List.mem_append.1 member with old | new
            · obtain ⟨other, among, found⟩ := named v old
              exact ⟨other, List.mem_append_left _ among, found⟩
            · obtain rfl := List.mem_singleton.1 new
              exact ⟨reference, List.mem_append_right _ List.mem_cons_self, q, known, rfl⟩
          obtain ⟨front, other, back, parts, refuses⟩ := ih _ grown later refused
          rw [List.append_assoc, List.singleton_append] at parts
          exact ⟨front, other, back, parts, refuses⟩

/-- A participant that stands for a list or an object. Neither can be an actor, but nothing keeps
them out of the mapping. -/
def HasUnnamedActor (setting : Setting) : Prop :=
  ∃ entry ∈ setting.participants, entry.2.actor.isIdentifier = false

theorem actors_error_cases {setting : Setting} {place : Nat} {step : Step} {role : Role}
    {references : List Value} {e : BuildError} (given : step.participants = some references)
    (identifiers : ∀ r ∈ references, r.isIdentifier = true)
    (refused : setting.actors place step (.standard role) = .error e) :
    references = [] ∧ e = .noParticipant place ∨
      (∃ front reference back, references = front ++ reference :: back ∧
        setting.RefusesReference place role step.tag front reference e) ∨
      e = .misuse .notIdentifier ∧ setting.HasUnnamedActor := by
  rw [Setting.actors, given] at refused
  cases references with
  | nil => exact Or.inl ⟨rfl, (Except.error.inj refused).symm⟩
  | cons first rest =>
    right
    rcases bind_eq_error.1 refused with early | ⟨actors, after, late⟩
    · exact Or.inl (actorsAfter_refused [] (List.forall_mem_nil _) identifiers early)
    · right
      split at late
      · contradiction
      · rename_i unnamed
        simp only [List.all_eq_true, not_forall, Bool.not_eq_true] at unnamed
        obtain ⟨v, member, plain⟩ := unnamed
        rcases entitled_of_actorsAfter after member with nowhere | ⟨_, _, p, known, rfl, _⟩
        · contradiction
        · obtain ⟨entry, inside, same⟩ := exists_of_participant? known
          exact ⟨(Except.error.inj late).symm, entry, inside, same ▸ plain⟩

theorem quota_eq_error_iff {place : Nat} {step : Step} {role : StepRole} {actors : Nat} {n : Int}
    {e : BuildError} (settled : step.quota role (.int actors) = .ok (.int n)) :
    Setting.quota place step role actors = .error e ↔ quotaFits step.tag (.int n) actors = false ∧
      e = .unfitCardinality place (.int n) step.tag := by
  rw [Setting.quota, settled]
  simp only [Except.mapError, bind, Except.bind, int_isNumber, Bool.not_true, Bool.false_eq_true,
    if_false]
  cases quotaFits step.tag (.int n) actors with
  | true => exact iff_of_false nofun fun refused => Bool.noConfusion refused.1
  | false => simp [eq_comm]

structure ReachesQuota (setting : Setting) (place : Nat) (step : Step) (role : StepRole)
    (actors : List Value) : Prop where
  found : setting.role place step = .ok role
  typed : role = .standard .signature → setting.checkSignatureType place step = .ok ()
  listed : setting.actors place step role = .ok actors

theorem plan_of_quota {setting : Setting} {place : Nat} {step : Step} {role : StepRole}
    {actors : List Value} {e : BuildError} (reached : setting.ReachesQuota place step role actors)
    (refused : Setting.quota place step role actors.length = .error e) :
    setting.plan place (.step step) = .error e := by
  obtain ⟨found, typed, listed⟩ := reached
  rw [plan, planStep, found]
  by_cases signs : role = .standard .signature
  · have typed := typed signs
    subst signs
    simp only [bind, Except.bind, typed, listed, refused]
  · simp only [bind, Except.bind, listed, refused]

theorem plan_error_cases {setting : Setting} {place : Nat} {step : Step} {e : BuildError}
    (refused : setting.plan place (.step step) = .error e) :
    setting.role place step = .error e ∨ ∃ role, setting.role place step = .ok role ∧
      (role = .standard .signature ∧ setting.checkSignatureType place step = .error e ∨
        setting.actors place step role = .error e ∨
        ∃ actors, setting.ReachesQuota place step role actors ∧
          Setting.quota place step role actors.length = .error e) := by
  rcases bind_eq_error.1 refused with early | ⟨role, found, later⟩
  · exact Or.inl early
  · refine Or.inr ⟨role, found, ?_⟩
    -- The signature type is looked at for signatures alone; the rest is the same for all roles.
    have checked : role = .standard .signature ∧ setting.checkSignatureType place step = .error e ∨
        (role = .standard .signature → setting.checkSignatureType place step = .ok ()) ∧ (do
          let actors ← setting.actors place step role
          let quota ← Setting.quota place step role actors.length
          return (⟨place, step.tag, role, actors, quota⟩ : StepPlan)) = .error e := by
      split at later
      · rcases bind_eq_error.1 later with typing | ⟨_, typed, rest⟩
        · exact Or.inl ⟨rfl, typing⟩
        · exact Or.inr ⟨fun _ => typed, rest⟩
      · rename_i other
        exact Or.inr ⟨fun signs => absurd signs other, later⟩
    refine checked.imp_right ?_
    rintro ⟨typed, rest⟩
    rcases bind_eq_error.1 rest with listing | ⟨actors, listed, counting⟩
    · exact Or.inl listing
    · rcases bind_eq_error.1 counting with unread | ⟨_, _, nothing⟩
      · exact Or.inr ⟨actors, ⟨found, typed, listed⟩, unread⟩
      · cases nothing

theorem specs_of_planned {setting : Setting} {policy : TagPolicy}
    (policed : setting.resolver = policy.resolver) {place : Nat} {step : Step} {plan : StepPlan}
    (planned : setting.plan place (.step step) = .ok plan) (documents : List Value) :
    ∃ specs, plan.specs documents = .ok specs := by
  -- Which nodes are made depends on the tag, and a policy lets only known tags sign.
  obtain ⟨role, actors, quota, resolved, _, _, _, rfl⟩ := planStep_eq_ok planned
  obtain ⟨resolves, written, no_sign⟩ := role_eq_ok resolved
  rw [policed] at resolves
  obtain ⟨r, rfl⟩ := TagPolicy.standard_of_resolve resolves
  cases r with
  | approval => exact ⟨_, rfl⟩
  | expedition => exact ⟨_, rfl⟩
  | signature =>
    cases shared : Tag.isShared step.tag with
    | true => exact ⟨_, by simp only [StepPlan.specs, shared, if_true]; rfl⟩
    | false =>
      have sequential : Tag.isSequential step.tag = true :=
        (TagPolicy.shared_or_sequential resolves no_sign).resolve_left (by simp [shared])
      refine ⟨actors.map fun actor => ⟨.int place, .signature, .text step.tag, [actor], documents,
        .int 1⟩, ?_⟩
      simp only [StepPlan.specs, shared, sequential, Bool.false_eq_true, if_false, if_true]

end Setting

namespace Draft

theorem addStep_error_cases {setting : Setting} {policy : TagPolicy} {documents : List Value}
    {place : Nat} {step : Step} {draft : Draft} {e : BuildError}
    (policed : setting.resolver = policy.resolver)
    (refused : draft.addStep setting documents place (.step step) = .error e) :
    setting.plan place (.step step) = .error e ∨
      ∃ plan, setting.plan place (.step step) = .ok plan ∧
        History.carryOut place plan.role.recorded plan.actors documents draft.history =
          .error e := by
  rcases bind_eq_error.1 refused with early | ⟨plan, planned, later⟩
  · exact Or.inl early
  · rcases bind_eq_error.1 later with carrying | ⟨history, _, later⟩
    · exact Or.inr ⟨plan, planned, carrying⟩
    · obtain ⟨specs, emitted⟩ := Setting.specs_of_planned policed planned documents
      rcases bind_eq_error.1 later with emitting | ⟨_, _, nothing⟩
      · cases emitted.symm.trans emitting
      · cases nothing

theorem addSteps_eq_error_iff {setting : Setting} {documents : List Value} {first : Nat}
    {items : List StepItem} {draft : Draft} {e : BuildError} :
    addSteps setting documents first items draft = .error e ↔ ∃ i item before,
      items[i]? = some item ∧ addSteps setting documents first (items.take i) draft = .ok before ∧
        addStep before setting documents (first + i) item = .error e := by
  induction items generalizing first draft with
  | nil => simp [addSteps]
  | cons item rest ih =>
    rw [addSteps, bind_eq_error]
    constructor
    · rintro (here | ⟨next, added, later⟩)
      · exact ⟨0, item, draft, rfl, rfl, here⟩
      · obtain ⟨i, other, before, listed, earlier, failed⟩ := ih.1 later
        refine ⟨i + 1, other, before, listed, ?_, ?_⟩
        · rw [List.take_succ_cons, addSteps, added]
          exact earlier
        · rwa [Nat.add_right_comm, Nat.add_assoc] at failed
    · rintro ⟨i, other, before, listed, earlier, failed⟩
      cases i with
      | zero =>
        obtain rfl := Option.some.inj listed
        obtain rfl := Except.ok.inj earlier
        exact Or.inl failed
      | succ i =>
        rw [List.take_succ_cons, addSteps, bind_eq_ok] at earlier
        obtain ⟨next, added, earlier⟩ := earlier
        refine Or.inr ⟨next, added, ih.2 ⟨i, other, before, listed, earlier, ?_⟩⟩
        rwa [Nat.add_right_comm, Nat.add_assoc]

end Draft

theorem Workflow.build_of_refused {setting : Setting} {history : History} {items : List StepItem}
    {documents : List Value} (good : GoodDocuments documents) {place : Nat} {item : StepItem}
    (listed : items[place]? = some item) {draft : Draft}
    (earlier : Draft.addSteps setting documents 0 (items.take place) (.start history) = .ok draft)
    {e : BuildError} (refused : draft.addStep setting documents place item = .error e) :
    build setting history (some items) (some documents) = .error e := by
  rw [← Nat.zero_add place] at refused
  have adding := Draft.addSteps_eq_error_iff.2 ⟨place, item, draft, listed, earlier, refused⟩
  obtain ⟨first, rest, rfl⟩ := List.exists_cons_of_ne_nil
    (List.ne_nil_of_mem (List.mem_of_getElem? listed))
  rw [build, documentIds_of_good good]
  exact bind_eq_error.2 (Or.inr ⟨documents, rfl, bind_eq_error.2 (Or.inl adding)⟩)

theorem Workflow.build_error_cases {setting : Setting} {history : History} {items : List StepItem}
    {documents : List Value} {e : BuildError}
    (identifiers : ∀ d ∈ documents, d.isIdentifier = true)
    (refused : build setting history (some items) (some documents) = .error e) :
    documents = [] ∧ e = .noDocument ∨
      (∃ front d back, documents = front ++ d :: back ∧ Distinct front ∧
        front.contains d = true ∧ e = .repeatedDocument d) ∨
      items = [] ∧ e = .noStep ∨
      GoodDocuments documents ∧ ∃ place item draft, items[place]? = some item ∧
        Draft.addSteps setting documents 0 (items.take place) (.start history) = .ok draft ∧
        draft.addStep setting documents place item = .error e := by
  rcases bind_eq_error.1 refused with early | ⟨ids, checked, later⟩
  · by_cases given : documents = []
    · subst given
      exact Or.inl ⟨rfl, (Except.error.inj early).symm⟩
    · exact Or.inr (Or.inl ((documentIds_eq_error_iff given identifiers).1 early))
  · obtain ⟨given, good⟩ := good_of_documentIds checked
    obtain rfl := Option.some.inj given
    right
    right
    cases items with
    | nil => exact Or.inl ⟨rfl, (Except.error.inj later).symm⟩
    | cons item rest =>
      rcases bind_eq_error.1 later with adding | ⟨_, _, nothing⟩
      · obtain ⟨place, other, draft, listed, earlier, failed⟩ :=
          Draft.addSteps_eq_error_iff.1 adding
        rw [Nat.zero_add] at failed
        exact Or.inr ⟨good, place, other, draft, listed, earlier, failed⟩
      · cases nothing

theorem Step.exists_quota {step : Step} {parsed : Option Cardinality} {tag : String}
    (read : step.cardinality.parse = .ok parsed) (written : step.tag? = .ok tag) (role : StepRole)
    (participants : Value) : ∃ quota, step.quota role participants = .ok quota := by
  cases parsed with
  | some c => exact ⟨c.resolve participants, bind_eq_ok.2 ⟨some c, read, rfl⟩⟩
  | none =>
    have usual : ∃ c, Cardinality.byDefault role step.tag? = .ok c := by
      rw [written]
      cases role with
      | foreign v => exact ⟨_, rfl⟩
      | standard r => cases r <;> exact ⟨_, rfl⟩
    obtain ⟨c, usual⟩ := usual
    exact ⟨c.resolve participants, bind_eq_ok.2 ⟨none, read, bind_eq_ok.2 ⟨c, usual, rfl⟩⟩⟩

/-- A step as a client can author it: a list of references, and a cardinality as it was written. -/
def Step.IsListed (step : Step) : Prop :=
  step.IsAuthored ∧ ∃ references, step.participants = some references ∧
    ∀ r ∈ references, ∃ name, r = .text name

end SignatureRouting
