import SignatureRouting.Proofs.Lowering
import SignatureRouting.Proofs.Outcome
import SignatureRouting.Tag

/-!
How a tag policy divides tags. The categories of a configuration are accepted together or not at
all, and those to blame are the ones that add no tag. Once they are accepted no tag belongs to two
kinds, so it does not matter in which order the kinds are looked through: what a text resolves to is
decided by its normal form alone.
-/
namespace SignatureRouting

def IsBlankText (s : String) : Prop := ∀ c ∈ s.toList, isBlank c = true

instance (s : String) : Decidable (IsBlankText s) :=
  decidable_of_iff (s.toList.all isBlank = true) List.all_eq_true

section Text

theorem trimWhere_eq_nil_iff {p : Char → Bool} {cs : List Char} :
    trimWhere p cs = [] ↔ ∀ c ∈ cs, p c = true := by
  rw [trimWhere, List.reverse_eq_nil_iff, List.dropWhile_eq_nil_iff]
  constructor
  · intro trailing c member
    rw [← List.takeWhile_append_dropWhile (p := p) (l := cs)] at member
    rcases List.mem_append.1 member with leading | rest
    · exact List.mem_takeWhile_imp leading
    · exact trailing c (List.mem_reverse.2 rest)
  · intro all c member
    exact all c ((List.dropWhile_sublist p).subset (List.mem_reverse.1 member))

theorem normalize_eq_empty_iff {s : String} : normalize s = "" ↔ IsBlankText s := by
  have empty : ∀ cs : List Char, String.ofList cs = "" ↔ cs = [] := by
    intro cs
    rw [← String.ofList_nil, String.ofList_inj]
  rw [normalize, empty, lower, lowerFrom_eq_nil_iff, trim, trimWhere_eq_nil_iff]
  rfl

end Text

namespace TagPolicy

/-- A category that adds no tag after others: it is blank, names a built-in tag, or names the tag of
an earlier one again. -/
def AddsNothing (earlier : List String) (category : String) : Prop :=
  IsBlankText category ∨ normalize category ∈ Tag.builtIn ∨
    ∃ c ∈ earlier, normalize c = normalize category

instance (earlier : List String) (category : String) : Decidable (AddsNothing earlier category) :=
  decidable_of_iff (IsBlankText category ∨ normalize category ∈ Tag.builtIn ∨
    normalize category ∈ earlier.map normalize) (by rw [AddsNothing, List.mem_map])

def redundant (categories : List String) : List String :=
  (categories.zipIdx.filter fun e => AddsNothing (categories.take e.2) e.1).map (·.1)

def Admissible (categories : List String) : Prop :=
  (∀ c ∈ categories, ¬ IsBlankText c ∧ normalize c ∉ Tag.builtIn) ∧
    (categories.map normalize).Nodup

theorem redundant_eq_nil_iff_getElem {categories : List String} :
    redundant categories = [] ↔ ∀ i (inside : i < categories.length),
      ¬ AddsNothing (categories.take i) categories[i] := by
  rw [redundant, List.map_eq_nil_iff, List.filter_eq_nil_iff]
  simp only [decide_eq_true_eq]
  constructor
  · intro none_adds i inside
    exact none_adds (categories[i], i)
      (List.mem_zipIdx_iff_getElem?.2 (List.getElem?_eq_getElem inside))
  · intro none_adds e listed
    obtain ⟨inside, same⟩ := List.getElem?_eq_some_iff.1 (List.mem_zipIdx_iff_getElem?.1 listed)
    rw [← same]
    exact none_adds e.2 inside

theorem redundant_eq_nil_iff {categories : List String} :
    redundant categories = [] ↔ Admissible categories := by
  rw [redundant_eq_nil_iff_getElem, Admissible, List.Nodup, List.pairwise_map,
    List.pairwise_iff_getElem]
  constructor
  · intro none_adds
    constructor
    · intro c listed
      obtain ⟨i, inside, rfl⟩ := List.mem_iff_getElem.1 listed
      exact ⟨fun blank => none_adds i inside (Or.inl blank),
        fun fixed => none_adds i inside (Or.inr (Or.inl fixed))⟩
    · intro i j before inside less same
      have earlier : categories[i] ∈ categories.take j :=
        List.mem_take_iff_getElem.2 ⟨i, by omega, rfl⟩
      exact none_adds j inside (Or.inr (Or.inr ⟨_, earlier, same⟩))
  · rintro ⟨each, apart⟩ j inside (blank | fixed | ⟨c, earlier, same⟩)
    · exact (each _ (List.getElem_mem inside)).1 blank
    · exact (each _ (List.getElem_mem inside)).2 fixed
    · obtain ⟨i, before, rfl⟩ := List.mem_take_iff_getElem.1 earlier
      exact apart i j (by omega) inside (by omega) same

section Collect

def Covers (before approvalTags : List String) : Prop :=
  ∀ tag, tag ≠ "" → tag ∉ Tag.builtIn → (tag ∈ approvalTags ↔ tag ∈ before.map normalize)

variable {before approvalTags : List String} (covers : Covers before approvalTags)
include covers

theorem Covers.isTaken_iff (category : String) :
    isTaken approvalTags (normalize category) = true ↔ AddsNothing before category := by
  rw [AddsNothing, ← normalize_eq_empty_iff, ← List.mem_map (f := normalize)]
  by_cases blank : normalize category = ""
  · simp [isTaken, blank]
  · by_cases fixed : normalize category ∈ Tag.builtIn
    · simp [isTaken, fixed]
    · simp [isTaken, blank, fixed, covers _ blank fixed]

theorem Covers.skip {category : String} (taken : AddsNothing before category) :
    Covers (before ++ [category]) approvalTags := by
  intro tag named fresh
  rw [covers tag named fresh, List.map_append, List.mem_append, List.map_singleton,
    List.mem_singleton]
  constructor
  · exact Or.inl
  · rintro (known | rfl)
    · exact known
    · rcases taken with blank | fixed | ⟨c, earlier, same⟩
      · exact absurd (normalize_eq_empty_iff.2 blank) named
      · exact absurd fixed fresh
      · exact same ▸ List.mem_map_of_mem earlier

theorem Covers.add (category : String) :
    Covers (before ++ [category]) (approvalTags ++ [normalize category]) := by
  intro tag named fresh
  simp [covers tag named fresh]

theorem Covers.collect_refused (rest : List String) :
    (collect approvalTags rest).2 =
      ((rest.zipIdx before.length).filter fun e =>
        AddsNothing ((before ++ rest).take e.2) e.1).map (·.1) := by
  -- What was gone through grows with every category, whether it was accepted or not.
  induction rest generalizing before approvalTags with
  | nil => rfl
  | cons category rest ih =>
    have shift : before ++ category :: rest = (before ++ [category]) ++ rest := by simp
    have place : before.length + 1 = (before ++ [category]).length := by simp
    rw [collect, List.zipIdx_cons, List.filter_cons, List.take_left]
    dsimp only
    by_cases taken : AddsNothing before category
    · rw [if_pos ((covers.isTaken_iff category).2 taken), if_pos (by simpa using taken),
        List.map_cons, shift, place, ih (covers.skip taken)]
    · rw [if_neg fun is_taken => taken ((covers.isTaken_iff category).1 is_taken),
        if_neg (by simpa using taken), shift, place, ih (covers.add category)]

end Collect

theorem covers_start : Covers [] [Tag.approval] := by
  intro tag _ fresh
  have other : tag ≠ Tag.approval := by
    rintro rfl
    exact fresh List.mem_cons_self
  simp [other]

theorem collect_accepted {approvalTags categories : List String}
    (accepted : (collect approvalTags categories).2 = []) :
    (collect approvalTags categories).1 = approvalTags ++ categories.map normalize := by
  induction categories generalizing approvalTags with
  | nil => simp [collect]
  | cons category rest ih =>
    unfold collect at accepted ⊢
    dsimp only at accepted ⊢
    split at accepted
    · exact absurd accepted (List.cons_ne_nil _ _)
    · rename_i free
      rw [if_neg free, ih accepted]
      simp

theorem ofCategories_eq (categories : List String) :
    ofCategories categories =
      if redundant categories = [] then .ok ⟨Tag.approval :: categories.map normalize⟩
      else .error (.repeatedCategories (redundant categories)) := by
  have refused : (collect [Tag.approval] categories).2 = redundant categories :=
    covers_start.collect_refused categories
  unfold ofCategories
  split
  · rename_i tags all
    have accepted := collect_accepted (congrArg Prod.snd all)
    rw [all] at refused accepted
    rw [if_pos refused.symm]
    exact congrArg (Except.ok ∘ TagPolicy.mk) accepted
  · rename_i some all
    rw [all] at refused
    rw [← refused, if_neg (by simpa using some)]

/-- What it takes for a tag in normal form to resolve in some way, whatever else it may be. -/
def Belongs (policy : TagPolicy) (tag : String) : Resolution → Prop
  | .unset => tag = ""
  | .found (.standard .approval) => tag ∈ policy.approvalTags
  | .found (.standard .signature) => tag ∈ Tag.signatureTags
  | .found (.standard .expedition) => tag ∈ Tag.expeditionTags
  | .found (.foreign _) => False
  | .unknown => tag ≠ "" ∧ tag ∉ policy.approvalTags ∧ tag ∉ Tag.signatureTags ∧
      tag ∉ Tag.expeditionTags

theorem belongs_resolveTag (policy : TagPolicy) (tag : String) :
    policy.Belongs tag (policy.resolveTag tag) := by
  unfold resolveTag
  by_cases blank : tag = ""
  · simp [blank, Belongs]
  · by_cases signs : tag ∈ Tag.signatureTags
    · simp [blank, signs, Belongs]
    · by_cases approves : tag ∈ policy.approvalTags
      · simp [blank, signs, approves, Belongs]
      · by_cases sends : tag ∈ Tag.expeditionTags
        · simp [blank, signs, approves, sends, Belongs]
        · simp [blank, signs, approves, sends, Belongs]

structure KeepsApart (policy : TagPolicy) : Prop where
  named : "" ∉ policy.approvalTags
  signature : policy.approvalTags.Disjoint Tag.signatureTags
  expedition : policy.approvalTags.Disjoint Tag.expeditionTags

theorem signature_expedition_disjoint : Tag.signatureTags.Disjoint Tag.expeditionTags := by
  unfold List.Disjoint
  decide

theorem KeepsApart.resolveTag_eq_iff {policy : TagPolicy} (apart : policy.KeepsApart) (tag : String)
    (resolution : Resolution) :
    policy.resolveTag tag = resolution ↔ policy.Belongs tag resolution := by
  constructor
  · rintro rfl
    exact policy.belongs_resolveTag tag
  · intro belongs
    match resolution with
    | .unset =>
      obtain rfl : tag = "" := belongs
      rfl
    | .found (.standard .signature) =>
      have signs : tag ∈ Tag.signatureTags := belongs
      have named : tag ≠ "" := by
        rintro rfl
        revert signs
        decide
      simp [resolveTag, named, signs]
    | .found (.standard .approval) =>
      have approves : tag ∈ policy.approvalTags := belongs
      have named : tag ≠ "" := fun blank => apart.named (blank ▸ approves)
      have unsigned : tag ∉ Tag.signatureTags := apart.signature approves
      simp [resolveTag, named, unsigned, approves]
    | .found (.standard .expedition) =>
      have sends : tag ∈ Tag.expeditionTags := belongs
      have named : tag ≠ "" := by
        rintro rfl
        revert sends
        decide
      have unsigned : tag ∉ Tag.signatureTags :=
        fun signs => signature_expedition_disjoint signs sends
      have unapproved : tag ∉ policy.approvalTags :=
        fun approves => apart.expedition approves sends
      simp [resolveTag, named, unsigned, unapproved, sends]
    | .found (.foreign _) => contradiction
    | .unknown =>
      obtain ⟨named, unapproved, unsigned, unsent⟩ := belongs
      simp [resolveTag, named, unapproved, unsigned, unsent]

theorem mem_builtIn {tag : String} : tag ∈ Tag.builtIn ↔
    tag = Tag.approval ∨ tag ∈ Tag.signatureTags ∨ tag ∈ Tag.expeditionTags := by
  rw [Tag.builtIn, List.mem_cons, List.mem_append]

/-- How a policy divides texts if it has been made from these categories. -/
structure Classifies (policy : TagPolicy) (categories : List String) : Prop where
  approval_signature : policy.approvalTags.Disjoint Tag.signatureTags
  approval_expedition : policy.approvalTags.Disjoint Tag.expeditionTags
  signature_expedition : Tag.signatureTags.Disjoint Tag.expeditionTags
  unset : ∀ s, policy.resolve (.text s) = .unset ↔ IsBlankText s
  signature : ∀ s, policy.resolve (.text s) = .found (.standard .signature) ↔
    normalize s ∈ Tag.signatureTags
  expedition : ∀ s, policy.resolve (.text s) = .found (.standard .expedition) ↔
    normalize s ∈ Tag.expeditionTags
  approval : ∀ s, policy.resolve (.text s) = .found (.standard .approval) ↔
    normalize s = Tag.approval ∨ ∃ c ∈ categories, normalize s = normalize c
  unknown : ∀ s, policy.resolve (.text s) = .unknown ↔ ¬ IsBlankText s ∧
    normalize s ∉ Tag.builtIn ∧ ∀ c ∈ categories, normalize s ≠ normalize c

section Admissible
variable {categories : List String} (admissible : Admissible categories)
include admissible

theorem Admissible.keepsApart :
    (⟨Tag.approval :: categories.map normalize⟩ : TagPolicy).KeepsApart := by
  have added : ∀ tag ∈ categories.map normalize, tag ≠ "" ∧ tag ∉ Tag.builtIn := by
    intro tag listed
    obtain ⟨c, given, rfl⟩ := List.mem_map.1 listed
    obtain ⟨marked, new⟩ := admissible.1 c given
    exact ⟨fun empty => marked (normalize_eq_empty_iff.1 empty), new⟩
  constructor
  case named =>
    rw [List.mem_cons, not_or]
    exact ⟨by decide, fun listed => (added "" listed).1 rfl⟩
  case signature =>
    rw [List.disjoint_cons_left]
    refine ⟨by decide, fun tag listed signs => (added tag listed).2 ?_⟩
    exact mem_builtIn.2 (Or.inr (Or.inl signs))
  case expedition =>
    rw [List.disjoint_cons_left]
    refine ⟨by decide, fun tag listed sends => (added tag listed).2 ?_⟩
    exact mem_builtIn.2 (Or.inr (Or.inr sends))

theorem Admissible.classifies :
    (⟨Tag.approval :: categories.map normalize⟩ : TagPolicy).Classifies categories := by
  have apart := admissible.keepsApart
  have listed : ∀ s, normalize s ∈ Tag.approval :: categories.map normalize ↔
      normalize s = Tag.approval ∨ ∃ c ∈ categories, normalize s = normalize c := by
    intro s
    simp only [List.mem_cons, List.mem_map, eq_comm]
  constructor
  case approval_signature => exact apart.signature
  case approval_expedition => exact apart.expedition
  case signature_expedition => exact signature_expedition_disjoint
  case unset =>
    intro s
    rw [resolve, apart.resolveTag_eq_iff, Belongs, normalize_eq_empty_iff]
  case signature =>
    intro s
    rw [resolve, apart.resolveTag_eq_iff, Belongs]
  case expedition =>
    intro s
    rw [resolve, apart.resolveTag_eq_iff, Belongs]
  case approval =>
    intro s
    rw [resolve, apart.resolveTag_eq_iff, Belongs, listed]
  case unknown =>
    intro s
    rw [resolve, apart.resolveTag_eq_iff, Belongs, Ne, normalize_eq_empty_iff, listed, mem_builtIn]
    simp only [not_or, not_exists, not_and, Ne]
    constructor
    · rintro ⟨marked, ⟨other, new⟩, unsigned, unsent⟩
      exact ⟨marked, ⟨other, unsigned, unsent⟩, new⟩
    · rintro ⟨marked, ⟨other, unsigned, unsent⟩, new⟩
      exact ⟨marked, ⟨other, new⟩, unsigned, unsent⟩

end Admissible

theorem ofValue_texts (categories : List String) :
    ofValue (.list (categories.map .text)) = ofCategories categories := by
  have each : (categories.map Value.text).mapM categoryText = .ok categories := by
    rw [mapM_eq_ok, List.forall₂_map_left_iff, List.forall₂_same]
    exact fun _ _ => rfl
  unfold ofValue
  simp only [Value.elements?, each, bind, Except.bind]

/-- Categories make a policy exactly if each names a tag of its own, and are otherwise refused with
those that do not. A policy that is made puts every text in one class, and the built-in tags where
they belong. -/
theorem tags_partitioned (categories : List String) :
    ((∃ policy, ofValue (.list (categories.map .text)) = .ok policy) ↔
      (∀ c ∈ categories, normalize c ≠ "" ∧ normalize c ∉ Tag.builtIn) ∧
        (categories.map normalize).Nodup) ∧
    (∀ e, ofValue (.list (categories.map .text)) = .error e →
      e = .repeatedCategories (redundant categories) ∧ redundant categories ≠ [] ∧
      e.failure.message? = some ("Approval categories cannot redefine existing tags: " ++
        ", ".intercalate ((redundant categories).map quoted))) ∧
    ∀ policy, ofValue (.list (categories.map .text)) = .ok policy →
      policy.approvalTags = Tag.approval :: categories.map normalize ∧
        policy.Classifies categories := by
  have decided : redundant categories = [] ↔
      (∀ c ∈ categories, normalize c ≠ "" ∧ normalize c ∉ Tag.builtIn) ∧
        (categories.map normalize).Nodup := by
    simp only [redundant_eq_nil_iff, Admissible, Ne, normalize_eq_empty_iff]
  rw [ofValue_texts, ofCategories_eq, ← decided]
  by_cases none_refused : redundant categories = []
  · rw [if_pos none_refused]
    refine ⟨by simp [none_refused], by simp, fun policy made => ?_⟩
    obtain rfl := Except.ok.inj made
    exact ⟨rfl, (redundant_eq_nil_iff.1 none_refused).classifies⟩
  · rw [if_neg none_refused]
    refine ⟨by simp [none_refused], fun e refused => ?_, by simp⟩
    obtain rfl := Except.error.inj refused
    exact ⟨rfl, none_refused, by rw [PolicyError.failure, Failure.message?]⟩

end TagPolicy

/-- Two categories make a policy in which they are found again. The others are refused: one is there
already, one signs, and one is blank. -/
theorem tags_partitioned_legal_review :
    ∃ policy, TagPolicy.ofValue (.list [.text " Legal-Review ", .text "HR"]) = .ok policy ∧
      policy.approvalTags = ["approval", "legal-review", "hr"] ∧
      policy.resolve (.text "hr ") = .found (.standard .approval) ∧
      policy.resolve (.text "CC") = .found (.standard .expedition) ∧
      ∃ e, TagPolicy.ofValue (.list [.text "HR", .text "hr", .text "Cosign", .text " "]) =
        .error e ∧ e = .repeatedCategories ["hr", "Cosign", " "] := by
  obtain ⟨accepted, _, classified⟩ := TagPolicy.tags_partitioned [" Legal-Review ", "HR"]
  obtain ⟨policy, made⟩ := accepted.2 (by decide)
  obtain ⟨tags, classifies⟩ := classified policy made
  have refused : ∃ e, TagPolicy.ofValue
      (.list [.text "HR", .text "hr", .text "Cosign", .text " "]) = .error e := ⟨_, rfl⟩
  obtain ⟨e, refused⟩ := refused
  have listed := (TagPolicy.tags_partitioned ["HR", "hr", "Cosign", " "]).2.1 e refused
  have named : TagPolicy.redundant ["HR", "hr", "Cosign", " "] = ["hr", "Cosign", " "] := rfl
  refine ⟨policy, made, tags.trans (by decide), ?_, ?_, e, refused, named ▸ listed.1⟩
  · exact (classifies.approval "hr ").2 (Or.inr ⟨"HR", by decide, by decide⟩)
  · exact (classifies.expedition "CC").2 (by decide)

end SignatureRouting
