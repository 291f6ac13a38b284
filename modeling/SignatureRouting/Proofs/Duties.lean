import Mathlib.Data.List.Induction
import SignatureRouting.Proofs.Emission

/-!
Which lists of steps fit a history. What a step records is a duty: its actors act in its role on
every document. Duties are recorded one after the other, and the first one that does not fit is
refused with a conflict that names its place. The lists in which every duty fits are the coherent
ones, which are told from the duties and the history alone. A build whose steps can be planned
succeeds or is refused exactly as the recording of their duties is.
-/
namespace SignatureRouting
open Value

structure Duty where
  role : Role
  actors : List Value

def StepPlan.duty (plan : StepPlan) : Duty := ⟨plan.role.recorded, plan.actors⟩

namespace BuildError

inductive ConflictAt (place : Nat) (s : Duty) (documents : List Value) : BuildError → Prop where
  | signed {d : Value} (approves : s.role = .approval) (member : d ∈ documents) :
      ConflictAt place s documents (alreadySigned place d)
  | unsigned {d : Value} (sends : s.role = .expedition) (member : d ∈ documents) :
      ConflictAt place s documents (notSigned place d)
  | repeated {v d : Value} (acts : v ∈ s.actors) (member : d ∈ documents) :
      ConflictAt place s documents (repeatedAction place v d s.role)

theorem ConflictAt.raisesIf {place : Nat} {s : Duty} {documents : List Value} {e : BuildError}
    (refused : e.ConflictAt place s documents) :
    e.failure.RaisesIf (e.shown.all isWritable) fun told =>
      ∃ cause : String, told = .plain .conflict (s!"step[{place}]: " ++ cause) := by
  cases refused with
  | signed _ _ =>
    refine Failure.raisesIf_ofMessage ((writesIf_written _).bind fun _ => .pure _) _ ?_
    intro m made
    obtain ⟨text, _, same⟩ := bind_eq_ok.1 made
    obtain rfl := Except.ok.inj same
    refine ⟨s!"cannot approve document {text} because it is already signed", ?_⟩
    simp only [toString, String.append_assoc]
    rfl
  | unsigned _ _ =>
    refine Failure.raisesIf_ofMessage ((writesIf_written _).bind fun _ => .pure _) _ ?_
    intro m made
    obtain ⟨text, _, same⟩ := bind_eq_ok.1 made
    obtain rfl := Except.ok.inj same
    refine ⟨s!"cannot send document {text} because it is not signed", ?_⟩
    simp only [toString, String.append_assoc]
    rfl
  | repeated _ _ =>
    refine Failure.raisesIf_ofMessage
      ((writesIf_written _).bind fun _ => (writesIf_written _).bind fun _ => .pure _) _ ?_
    intro m made
    obtain ⟨who, _, made⟩ := bind_eq_ok.1 made
    obtain ⟨what, _, same⟩ := bind_eq_ok.1 made
    obtain rfl := Except.ok.inj same
    refine ⟨s!"actor {who} cannot {s.role.verb} document {what} twice", ?_⟩
    simp only [toString, String.append_assoc]
    rfl

end BuildError

namespace History

def carryOutAll (documents : List Value) : Nat → List Duty → History → Except BuildError History
  | _, [], h => .ok h
  | place, duty :: rest, h => do
    carryOutAll documents (place + 1) rest (← carryOut place duty.role duty.actors documents h)

theorem checkState_eq_ok_iff {h : History} {place : Nat} {role : Role} {document : Value} :
    h.checkState place role document = .ok () ↔
      (role = .approval → (h.tally document).signers = []) ∧
        (role = .expedition → (h.tally document).signers ≠ []) := by
  cases role <;> simp [checkState]

theorem carryOut_eq_ok_iff {place : Nat} {role : Role} {actors documents : List Value}
    {before : History} (apart : Distinct documents) :
    (∃ after, carryOut place role actors documents before = .ok after) ↔
      ∀ d ∈ documents, before.checkState place role d = .ok () ∧
        ∀ v ∈ actors, ¬ before.Records d v role := by
  constructor
  · rintro ⟨after, ok⟩ d member
    exact ⟨checkState_of_carryOut ok d member, (carriedOut_of_carryOut ok).unrecorded d member⟩
  · intro clear
    induction documents generalizing before with
    | nil => exact ⟨before, rfl⟩
    | cons document rest ih =>
      obtain ⟨absent, apart⟩ := distinct_cons.1 apart
      obtain ⟨⟨state, unrecorded⟩, later⟩ := List.forall_mem_cons.1 clear
      simp only [carryOut, state, checkActors_eq_ok_iff.2 unrecorded, bind, Except.bind]
      refine ih apart fun d member => ?_
      have other := differs_of_mem absent member
      obtain ⟨state, unrecorded⟩ := later d member
      refine ⟨(before.checkState_recordAll ..).trans state, fun v listed recorded => ?_⟩
      rcases (records_recordAll ..).1 recorded with old | ⟨here, _⟩
      · exact unrecorded v listed old
      · rw [other] at here
        contradiction

section Conflict
variable {place : Nat} {s : Duty} {documents : List Value} {e : BuildError}

theorem conflict_of_checkState {h : History} {d : Value} (member : d ∈ documents)
    (refused : h.checkState place s.role d = .error e) : e.ConflictAt place s documents := by
  cases role : s.role with
  | approval =>
    simp only [role, checkState] at refused
    split at refused <;> cases refused
    exact .signed role member
  | signature =>
    rw [role] at refused
    contradiction
  | expedition =>
    simp only [role, checkState] at refused
    split at refused <;> cases refused
    exact .unsigned role member

theorem conflict_of_checkActors {h : History} {d : Value} (member : d ∈ documents)
    {actors : List Value} (among : ∀ v ∈ actors, v ∈ s.actors)
    (refused : h.checkActors place s.role d actors = .error e) :
    e.ConflictAt place s documents := by
  induction actors with
  | nil => contradiction
  | cons actor rest ih =>
    obtain ⟨acts, later⟩ := List.forall_mem_cons.1 among
    rw [checkActors] at refused
    split at refused
    · cases refused
      exact .repeated acts member
    · exact ih later refused

theorem conflict_of_carryOut {before : History}
    (refused : carryOut place s.role s.actors documents before = .error e) :
    e.ConflictAt place s documents := by
  -- The documents that are left stay among those of the duty.
  suffices some : ∀ left, (∀ d ∈ left, d ∈ documents) → ∀ h,
      carryOut place s.role s.actors left h = .error e → e.ConflictAt place s documents from
    some documents (fun _ => id) before refused
  intro left among
  induction left with
  | nil => exact fun _ fails => nomatch fails
  | cons d rest ih =>
    intro h fails
    obtain ⟨member, later⟩ := List.forall_mem_cons.1 among
    rw [carryOut] at fails
    cases state : h.checkState place s.role d with
    | error f =>
      simp only [state, bind, Except.bind, Except.error.injEq] at fails
      exact conflict_of_checkState member (fails ▸ state)
    | ok u =>
      cases unrecorded : h.checkActors place s.role d s.actors with
      | error f =>
        simp only [state, unrecorded, bind, Except.bind, Except.error.injEq] at fails
        exact conflict_of_checkActors member (fun _ => id) (fails ▸ unrecorded)
      | ok u' =>
        simp only [state, unrecorded, bind, Except.bind] at fails
        exact ih later _ fails

end Conflict

def Extends (after history : History) (documents : List Value) (duties : List Duty) : Prop :=
  ∀ d v role, after.Records d v role ↔ history.Records d v role ∨
    documents.contains d = true ∧ ∃ s ∈ duties, s.role = role ∧ s.actors.contains v = true

theorem extends_nil (history : History) (documents : List Value) :
    history.Extends history documents [] := by
  intro d v role
  simp

theorem signers_ne_nil_iff (h : History) (d : Value) :
    (h.tally d).signers ≠ [] ↔ ∃ v, h.Records d v .signature := by
  constructor
  · intro signed
    obtain ⟨v, member⟩ := List.exists_mem_of_ne_nil _ signed
    exact ⟨v, contains_of_mem member⟩
  · rintro ⟨v, recorded⟩ nobody
    rw [Records, Tally.actors, nobody] at recorded
    contradiction

theorem Extends.append_one {before after history : History} {documents : List Value}
    {duties : List Duty} {s : Duty} (recorded : before.Extends history documents duties)
    {place : Nat} (ok : carryOut place s.role s.actors documents before = .ok after) :
    after.Extends history documents (duties ++ [s]) := by
  intro d v role
  rw [(carriedOut_of_carryOut ok).records, recorded]
  simp only [List.mem_append, List.mem_singleton, or_and_right, exists_or, exists_eq_left]
  constructor
  · rintro ((old | ⟨known, before⟩) | ⟨known, listed, rfl⟩)
    · exact Or.inl old
    · exact Or.inr ⟨known, Or.inl before⟩
    · exact Or.inr ⟨known, Or.inr ⟨rfl, listed⟩⟩
  · rintro (old | ⟨known, before | ⟨rfl, listed⟩⟩)
    · exact Or.inl (Or.inl old)
    · exact Or.inl (Or.inr ⟨known, before⟩)
    · exact Or.inr ⟨known, listed, rfl⟩

theorem Extends.signed_iff {before history : History} {documents : List Value}
    {duties : List Duty} (recorded : before.Extends history documents duties)
    (somebody : ∀ s ∈ duties, s.actors ≠ []) {d : Value} (known : d ∈ documents) :
    (before.tally d).signers ≠ [] ↔
      (history.tally d).signers ≠ [] ∨ ∃ s ∈ duties, s.role = .signature := by
  simp only [signers_ne_nil_iff, recorded d, exists_or]
  refine or_congr_right ⟨?_, ?_⟩
  · rintro ⟨v, _, s, member, signs, _⟩
    exact ⟨s, member, signs⟩
  · rintro ⟨s, member, signs⟩
    obtain ⟨v, listed⟩ := List.exists_mem_of_ne_nil _ (somebody s member)
    exact ⟨v, contains_of_mem known, s, member, signs, contains_of_mem listed⟩

end History

/-- Duties in which nobody acts twice in one role, nothing is approved that is signed before or by
an earlier duty, and nothing is sent that is not. -/
structure Coherent (history : History) (documents : List Value) (duties : List Duty) : Prop where
  apart : duties.Pairwise fun s t => s.role = t.role → ∀ v, s.actors.contains v = true →
    t.actors.contains v = false
  unrecorded : ∀ s ∈ duties, ∀ v ∈ s.actors, ∀ d ∈ documents, ¬ history.Records d v s.role
  approved_first : duties.Pairwise fun s t => t.role = .approval → s.role ≠ .signature
  unsigned : ∀ s ∈ duties, s.role = .approval → ∀ d ∈ documents, (history.tally d).signers = []
  signed : ∀ {i : Nat} {s : Duty}, duties[i]? = some s → s.role = .expedition →
    (∃ t ∈ duties.take i, t.role = .signature) ∨ ∀ d ∈ documents, (history.tally d).signers ≠ []

structure Fits (history : History) (documents : List Value) (past : List Duty) (s : Duty) :
    Prop where
  apart : ∀ t ∈ past, t.role = s.role → ∀ v, t.actors.contains v = true →
    s.actors.contains v = false
  unrecorded : ∀ v ∈ s.actors, ∀ d ∈ documents, ¬ history.Records d v s.role
  approved_first : s.role = .approval → ∀ t ∈ past, t.role ≠ .signature
  unsigned : s.role = .approval → ∀ d ∈ documents, (history.tally d).signers = []
  signed : s.role = .expedition →
    (∃ t ∈ past, t.role = .signature) ∨ ∀ d ∈ documents, (history.tally d).signers ≠ []

section Coherent
variable {history : History} {documents : List Value}

theorem coherent_nil : Coherent history documents [] := by
  constructor <;> simp

theorem coherent_append_one {past : List Duty} {s : Duty} :
    Coherent history documents (past ++ [s]) ↔
      Coherent history documents past ∧ Fits history documents past s := by
  have earlier : ∀ i < past.length, (past ++ [s]).take i = past.take i :=
    fun i inside => List.take_append_of_le_length (Nat.le_of_lt inside)
  constructor
  · intro coherent
    have apart := coherent.apart
    have unrecorded := coherent.unrecorded
    have approved_first := coherent.approved_first
    have unsigned := coherent.unsigned
    simp only [List.pairwise_append, List.forall_mem_singleton] at apart approved_first
    simp only [List.forall_mem_append, List.forall_mem_singleton] at unrecorded unsigned
    have last := coherent.signed (i := past.length) (s := s) (by simp)
    rw [List.take_left] at last
    refine ⟨⟨apart.1, unrecorded.1, approved_first.1, unsigned.1, fun {i t} found sends => ?_⟩,
      ⟨apart.2.2, unrecorded.2, fun approves t member => approved_first.2.2 t member approves,
        unsigned.2, last⟩⟩
    have inside : i < past.length := (List.getElem?_eq_some_iff.1 found).1
    rw [← earlier i inside]
    exact coherent.signed (by rw [List.getElem?_append_left inside, found]) sends
  · rintro ⟨coherent, fits⟩
    constructor
    case apart =>
      simp only [List.pairwise_append, List.forall_mem_singleton]
      exact ⟨coherent.apart, List.pairwise_singleton _ _, fits.apart⟩
    case unrecorded =>
      simp only [List.forall_mem_append, List.forall_mem_singleton]
      exact ⟨coherent.unrecorded, fits.unrecorded⟩
    case approved_first =>
      simp only [List.pairwise_append, List.forall_mem_singleton]
      exact ⟨coherent.approved_first, List.pairwise_singleton _ _,
        fun t member approves => fits.approved_first approves t member⟩
    case unsigned =>
      simp only [List.forall_mem_append, List.forall_mem_singleton]
      exact ⟨coherent.unsigned, fits.unsigned⟩
    case signed =>
      intro i t found sends
      by_cases inside : i < past.length
      · rw [List.getElem?_append_left inside] at found
        rw [earlier i inside]
        exact coherent.signed found sends
      · have only : i = past.length ∧ s = t := by
          rw [List.getElem?_append_right (by omega), List.getElem?_singleton] at found
          split at found
          · exact ⟨by omega, Option.some.inj found⟩
          · contradiction
        obtain ⟨rfl, rfl⟩ := only
        rw [List.take_left]
        exact fits.signed sends

theorem Coherent.of_append {past more : List Duty}
    (coherent : Coherent history documents (past ++ more)) : Coherent history documents past := by
  induction more using List.reverseRecOn with
  | nil => rwa [List.append_nil] at coherent
  | append_singleton more s ih =>
    rw [← List.append_assoc] at coherent
    exact ih (coherent_append_one.1 coherent).1

theorem Coherent.take {duties : List Duty} (coherent : Coherent history documents duties)
    (i : Nat) : Coherent history documents (duties.take i) := by
  rw [← List.take_append_drop i duties] at coherent
  exact coherent.of_append

variable {past : List Duty} {before : History} (somebody : ∀ s ∈ past, s.actors ≠ [])
  (recorded : before.Extends history documents past)
include somebody recorded

theorem checkState_after_iff {place : Nat} {role : Role} {d : Value} (known : d ∈ documents) :
    before.checkState place role d = .ok () ↔
      (role = .approval → (∀ t ∈ past, t.role ≠ .signature) ∧ (history.tally d).signers = []) ∧
        (role = .expedition →
          (∃ t ∈ past, t.role = .signature) ∨ (history.tally d).signers ≠ []) := by
  have signed := recorded.signed_iff somebody known
  have unsigned := not_congr signed
  rw [not_not, not_or, not_not] at unsigned
  rw [History.checkState_eq_ok_iff, signed, unsigned, or_comm, and_comm (a := _ = [])]
  simp only [not_exists, not_and, ne_eq]

theorem carryOut_iff_fits (some : documents ≠ []) (distinct : Distinct documents) (place : Nat)
    (s : Duty) :
    (∃ after, History.carryOut place s.role s.actors documents before = .ok after) ↔
      Fits history documents past s := by
  rw [History.carryOut_eq_ok_iff distinct]
  obtain ⟨e, given⟩ := List.exists_mem_of_ne_nil _ some
  constructor
  · intro clear
    have state := fun d member =>
      (checkState_after_iff somebody recorded member).1 (clear d member).1
    constructor
    case apart =>
      intro t member same v listed
      rw [← Bool.not_eq_true]
      intro again
      obtain ⟨w, among, equal⟩ := exists_same_of_contains again
      refine (clear e given).2 w among ((recorded e w s.role).2 (Or.inr ?_))
      exact ⟨contains_of_mem given, t, member, same, (contains_congr _ equal).symm.trans listed⟩
    case unrecorded =>
      intro v listed d member old
      exact (clear d member).2 v listed ((recorded d v s.role).2 (Or.inl old))
    case approved_first => exact fun approves => ((state e given).1 approves).1
    case unsigned => exact fun approves d member => ((state d member).1 approves).2
    case signed =>
      intro sends
      -- A duty to sign covers all documents, so either one does for all or each has to be signed.
      by_cases signs : ∃ t ∈ past, t.role = .signature
      · exact Or.inl signs
      · exact Or.inr fun d member => ((state d member).2 sends).resolve_left signs
  · intro fits d member
    constructor
    · refine (checkState_after_iff somebody recorded member).2 ⟨fun approves => ?_, fun sends => ?_⟩
      · exact ⟨fits.approved_first approves, fits.unsigned approves d member⟩
      · exact (fits.signed sends).imp id fun signers => signers d member
    · intro v listed again
      rcases (recorded d v s.role).1 again with old | ⟨_, t, among, same, acts⟩
      · exact fits.unrecorded v listed d member old
      · have absent := fits.apart t among same v acts
        rw [contains_of_mem listed] at absent
        contradiction

/-- What comes of duties after those that were recorded: all are recorded too, or the first one
that does not fit is refused. -/
theorem carryOutAll_after (given : documents ≠ []) (distinct : Distinct documents)
    (coherent : Coherent history documents past) {duties : List Duty}
    (acting : ∀ s ∈ duties, s.actors ≠ []) (place : Nat) :
    (∃ after, History.carryOutAll documents place duties before = .ok after ∧
      Coherent history documents (past ++ duties)) ∨
    ∃ e i t, History.carryOutAll documents place duties before = .error e ∧
      duties[i]? = some t ∧ e.ConflictAt (place + i) t documents ∧
      Coherent history documents (past ++ duties.take i) ∧
      ¬ Coherent history documents (past ++ duties.take (i + 1)) := by
  -- Every duty that is recorded joins the past, so the induction is over all coherent pasts.
  induction duties generalizing past before place with
  | nil => exact Or.inl ⟨before, rfl, by rwa [List.append_nil]⟩
  | cons s rest ih =>
    obtain ⟨acts, later⟩ := List.forall_mem_cons.1 acting
    have fits := carryOut_iff_fits somebody recorded given distinct place s
    cases carried : History.carryOut place s.role s.actors documents before with
    | error e =>
      refine Or.inr ⟨e, 0, s, ?_, rfl, History.conflict_of_carryOut carried, ?_, ?_⟩
      · simp [History.carryOutAll, carried, bind, Except.bind]
      · rwa [List.take_zero, List.append_nil]
      · intro grown
        obtain ⟨after, ok⟩ := fits.2 (coherent_append_one.1 grown).2
        rw [carried] at ok
        contradiction
    | ok next =>
      have grown : Coherent history documents (past ++ [s]) :=
        coherent_append_one.2 ⟨coherent, fits.1 ⟨next, carried⟩⟩
      have everybody : ∀ t ∈ past ++ [s], t.actors ≠ [] := by
        simpa [or_imp, forall_and] using ⟨somebody, acts⟩
      have step : History.carryOutAll documents place (s :: rest) before =
          History.carryOutAll documents (place + 1) rest next := by
        simp [History.carryOutAll, carried, bind, Except.bind]
      rw [step]
      rcases ih everybody (recorded.append_one carried) grown later (place + 1) with
        ⟨after, ok, whole⟩ | ⟨e, i, t, refused, found, names, kept, broken⟩
      · exact Or.inl ⟨after, ok, by simpa using whole⟩
      · refine Or.inr ⟨e, i + 1, t, refused, found, ?_, ?_, ?_⟩
        · rwa [Nat.add_assoc, Nat.add_comm 1 i] at names
        · simpa using kept
        · simpa using broken

end Coherent

end SignatureRouting
