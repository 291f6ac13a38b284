import Mathlib.Data.List.TakeWhile
import SignatureRouting.Number.Numeral
import SignatureRouting.Tag

/-!
What lower-casing keeps. The table maps nothing to a character that it maps again, and nothing that
is neither blank nor a digit to a character that is one. So text in lower case stays as it is,
trimmed text stays trimmed, and digits come from digits alone.
-/
namespace SignatureRouting

theorem toNat_ofNat_of_valid {n : Nat} (below : n < 0x110000) (scalar : n < 0xD800 ∨ 0xDFFF < n) :
    (Char.ofNat n).toNat = n := by
  have valid : n.isValidChar := by
    unfold Nat.isValidChar
    omega
  rw [Char.ofNat, dif_pos valid]
  rfl

namespace LowerRun

def image (r : LowerRun) : Nat × Nat := ((r.first + r.shift).toNat, (r.last + r.shift).toNat)

def avoids (r : LowerRun) (range : Nat × Nat) : Bool :=
  r.image.2.blt range.1 || range.2.blt r.image.1

/-- The other run maps nothing of what this one maps to: its range is avoided, or the code points
that it leaves out are met. -/
def misses (r other : LowerRun) : Bool :=
  r.avoids (other.first, other.last) ||
    (r.stride == 2 || r.first == r.last) && other.stride == 2 &&
      (r.image.1 + other.first) % 2 == 1

/-- Where no letter in lower case is: the digits, the letter I with dot above, the surrogates and
the blanks. -/
def letterless : List (Nat × Nat) :=
  (0x30, 0x39) :: (0x130, 0x130) :: (0xD800, 0xDFFF) :: blankRanges

def isSound (r : LowerRun) : Bool :=
  0 ≤ r.first + r.shift && r.image.2.blt 0x110000 && letterless.all r.avoids &&
    lowerRuns.all r.misses

theorem lowerRuns_sound : lowerRuns.all isSound = true := by decide +kernel

variable {r other : LowerRun} {c : Char}

theorem covers_iff : r.covers c = true ↔
    r.first ≤ c.toNat ∧ c.toNat ≤ r.last ∧ (c.toNat - r.first) % r.stride = 0 := by
  rw [covers, Bool.and_eq_true, Bool.and_eq_true, decide_eq_true_eq, decide_eq_true_eq, beq_iff_eq,
    and_assoc]

section Listed
variable (listed : r ∈ lowerRuns) (covered : r.covers c = true)
include listed covered

theorem image_width : r.image.2 = r.image.1 + (r.last - r.first) := by
  have sound := List.all_eq_true.1 lowerRuns_sound r listed
  obtain ⟨least, most, _⟩ := covers_iff.1 covered
  simp only [isSound, image, Bool.and_eq_true, decide_eq_true_eq] at sound ⊢
  omega

theorem toNat_apply : (r.apply c).toNat = r.image.1 + (c.toNat - r.first) := by
  have sound := List.all_eq_true.1 lowerRuns_sound r listed
  obtain ⟨least, most, _⟩ := covers_iff.1 covered
  have width := image_width listed covered
  simp only [isSound, Bool.and_eq_true, decide_eq_true_eq, Nat.blt_eq] at sound
  obtain ⟨⟨⟨positive, below⟩, avoided⟩, _⟩ := sound
  have surrogates : r.avoids (0xD800, 0xDFFF) = true :=
    List.all_eq_true.1 avoided _ (by simp [letterless])
  simp only [avoids, Bool.or_eq_true, Nat.blt_eq] at surrogates
  have code : (c.toNat + r.shift).toNat = r.image.1 + (c.toNat - r.first) := by
    unfold image
    omega
  rw [apply, code, toNat_ofNat_of_valid]
  · omega
  · omega

theorem apply_avoids {range : Nat × Nat} (avoided : r.avoids range = true) :
    inRange (r.apply c) range = false := by
  have code := toNat_apply listed covered
  have width := image_width listed covered
  obtain ⟨least, most, _⟩ := covers_iff.1 covered
  simp only [avoids, Bool.or_eq_true, Nat.blt_eq] at avoided
  rw [inRange, Bool.and_eq_false_iff, decide_eq_false_iff_not, decide_eq_false_iff_not]
  omega

theorem apply_misses (missed : r.misses other = true) : other.covers (r.apply c) = false := by
  have code := toNat_apply listed covered
  obtain ⟨least, most, regular⟩ := covers_iff.1 covered
  rw [← Bool.not_eq_true, covers_iff]
  rintro ⟨first, last, meets⟩
  rw [misses, Bool.or_eq_true] at missed
  rcases missed with outside | between
  · have away := apply_avoids listed covered outside
    rw [inRange, Bool.and_eq_false_iff, decide_eq_false_iff_not, decide_eq_false_iff_not] at away
    omega
  · simp only [Bool.and_eq_true, Bool.or_eq_true, beq_iff_eq] at between
    obtain ⟨⟨spread, two⟩, odd⟩ := between
    rw [two] at meets
    rcases spread with stride | single
    · rw [stride] at regular
      omega
    · omega

end Listed
end LowerRun

section Character
variable {c d : Char}

def IsLowered (c : Char) : Prop := lowerChar c = c ∧ c ≠ dottedCapitalI

theorem lowerChar_eq_self (uncovered : ∀ r ∈ lowerRuns, r.covers c = false) : lowerChar c = c := by
  have none_covers : lowerRuns.find? (·.covers c) = none :=
    List.find?_eq_none.2 fun r listed => by simp [uncovered r listed]
  rw [lowerChar, none_covers]

theorem lowerChar_cases (c : Char) :
    lowerChar c = c ∨ ∃ r ∈ lowerRuns, r.covers c = true ∧ lowerChar c = r.apply c := by
  unfold lowerChar
  split
  · rename_i r found
    have covered := List.find?_some found
    exact Or.inr ⟨r, List.mem_of_find?_eq_some found, covered, rfl⟩
  · exact Or.inl rfl

theorem lowerChar_in_letterless {range : Nat × Nat} (listed : range ∈ LowerRun.letterless)
    (inside : inRange (lowerChar c) range = true) : lowerChar c = c := by
  rcases lowerChar_cases c with same | ⟨r, member, covered, maps⟩
  · exact same
  · have sound := List.all_eq_true.1 LowerRun.lowerRuns_sound r member
    simp only [LowerRun.isSound, Bool.and_eq_true] at sound
    have avoided := List.all_eq_true.1 sound.1.2 range listed
    rw [maps, LowerRun.apply_avoids member covered avoided] at inside
    contradiction

theorem isLowered_lowerChar (undotted : c ≠ dottedCapitalI) : IsLowered (lowerChar c) := by
  constructor
  · rcases lowerChar_cases c with same | ⟨r, member, covered, maps⟩
    · rw [same, same]
    · have sound := List.all_eq_true.1 LowerRun.lowerRuns_sound r member
      rw [LowerRun.isSound, Bool.and_eq_true] at sound
      rw [maps]
      refine lowerChar_eq_self fun other listed => ?_
      exact LowerRun.apply_misses member covered (List.all_eq_true.1 sound.2 other listed)
  · intro dotted
    have inside : inRange (lowerChar c) (0x130, 0x130) = true := by
      rw [dotted]
      decide
    have same := lowerChar_in_letterless (by simp [LowerRun.letterless]) inside
    exact undotted (same.symm.trans dotted)

theorem IsLowered.no_sigma (lowered : IsLowered c) : c ≠ capitalSigma := by
  rintro rfl
  exact absurd lowered.1 (by decide)

/-- One of the characters that another one becomes: the form that the table gives, the form of a
sigma at the end of a word, or a part of the letter I with dot above. -/
def IsFormOf (d c : Char) : Prop :=
  d = lowerChar c ∧ c ≠ dottedCapitalI ∨ d = finalSigma ∧ c = capitalSigma ∨
    (d = 'i' ∨ d = dotAbove) ∧ c = dottedCapitalI

theorem IsFormOf.isLowered (form : IsFormOf d c) : IsLowered d := by
  rcases form with ⟨rfl, undotted⟩ | ⟨rfl, _⟩ | ⟨rfl | rfl, _⟩
  · exact isLowered_lowerChar undotted
  · exact ⟨by decide, by decide⟩
  · exact ⟨by decide, by decide⟩
  · exact ⟨by decide, by decide⟩

theorem otherForms_avoid : [finalSigma, 'i', dotAbove].all
    (fun d => LowerRun.letterless.all fun range => !inRange d range) = true := by decide +kernel

theorem IsFormOf.eq_of_inRange {range : Nat × Nat} (form : IsFormOf d c)
    (listed : range ∈ LowerRun.letterless) (inside : inRange d range = true) : d = c := by
  have outside : ∀ e ∈ [finalSigma, 'i', dotAbove], inRange e range = true → e = c := by
    intro e among within
    have avoided := List.all_eq_true.1 (List.all_eq_true.1 otherForms_avoid e among) range listed
    rw [within] at avoided
    exact absurd avoided Bool.false_ne_true
  rcases form with ⟨rfl, _⟩ | ⟨rfl, _⟩ | ⟨rfl | rfl, _⟩
  · exact lowerChar_in_letterless listed inside
  · exact outside _ (by simp) inside
  · exact outside _ (by simp) inside
  · exact outside _ (by simp) inside

theorem IsFormOf.isBlank (form : IsFormOf d c) (marked : isBlank c = false) :
    isBlank d = false := by
  rw [← Bool.not_eq_true] at marked ⊢
  intro blank
  obtain ⟨range, listed, inside⟩ := List.any_eq_true.1 blank
  have among : range ∈ LowerRun.letterless := by simp [LowerRun.letterless, listed]
  exact marked (form.eq_of_inRange among inside ▸ blank)

theorem IsFormOf.eq_of_digit (form : IsFormOf d c) (digit : isPlainDigit d = true) : d = c :=
  form.eq_of_inRange List.mem_cons_self digit

end Character

section Text
variable {cs : List Char} {d : Char}

theorem lowerFrom_cons (cased : Bool) (c : Char) (rest : List Char) :
    ∃ piece next, lowerFrom cased (c :: rest) = piece ++ lowerFrom next rest ∧ piece ≠ [] ∧
      ∀ d ∈ piece, IsFormOf d c := by
  rw [lowerFrom]
  split
  · rename_i sigma
    refine ⟨[_], _, rfl, List.cons_ne_nil _ _, fun d member => ?_⟩
    obtain rfl := List.mem_singleton.1 member
    split
    · exact Or.inr (Or.inl ⟨rfl, sigma⟩)
    · rw [sigma]
      exact Or.inl ⟨by decide, by decide⟩
  · split
    · rename_i dotted
      refine ⟨['i', dotAbove], _, rfl, List.cons_ne_nil _ _, fun d member => ?_⟩
      exact Or.inr (Or.inr ⟨by simpa using member, dotted⟩)
    · rename_i undotted
      refine ⟨[lowerChar c], _, rfl, List.cons_ne_nil _ _, fun d member => ?_⟩
      exact Or.inl ⟨List.mem_singleton.1 member, undotted⟩

theorem lowerFrom_eq_nil_iff {cased : Bool} : lowerFrom cased cs = [] ↔ cs = [] := by
  cases cs with
  | nil => simp [lowerFrom]
  | cons c rest =>
    obtain ⟨piece, next, parts, some_form, _⟩ := lowerFrom_cons cased c rest
    simp [parts, some_form]

theorem exists_of_mem_lowerFrom {cased : Bool} (member : d ∈ lowerFrom cased cs) :
    ∃ c ∈ cs, IsFormOf d c := by
  induction cs generalizing cased with
  | nil => simp [lowerFrom] at member
  | cons c rest ih =>
    obtain ⟨piece, next, parts, _, forms⟩ := lowerFrom_cons cased c rest
    rw [parts, List.mem_append] at member
    rcases member with here | later
    · exact ⟨c, List.mem_cons_self, forms d here⟩
    · obtain ⟨b, among, form⟩ := ih later
      exact ⟨b, List.mem_cons_of_mem c among, form⟩

theorem exists_form_of_mem {c : Char} (cased : Bool) (member : c ∈ cs) :
    ∃ d ∈ lowerFrom cased cs, IsFormOf d c := by
  induction cs generalizing cased with
  | nil => simp at member
  | cons b rest ih =>
    obtain ⟨piece, next, parts, some_form, forms⟩ := lowerFrom_cons cased b rest
    rw [parts]
    rcases List.mem_cons.1 member with rfl | later
    · obtain ⟨d, among⟩ := List.exists_mem_of_ne_nil piece some_form
      exact ⟨d, List.mem_append_left _ among, forms d among⟩
    · obtain ⟨d, among, form⟩ := ih next later
      exact ⟨d, List.mem_append_right _ among, form⟩

theorem exists_of_head?_lowerFrom {cased : Bool} (first : (lowerFrom cased cs).head? = some d) :
    ∃ c, cs.head? = some c ∧ IsFormOf d c := by
  cases cs with
  | nil => simp [lowerFrom] at first
  | cons c rest =>
    obtain ⟨piece, next, parts, some_form, forms⟩ := lowerFrom_cons cased c rest
    obtain ⟨e, others, rfl⟩ := List.exists_cons_of_ne_nil some_form
    rw [parts] at first
    obtain rfl := Option.some.inj first
    exact ⟨c, rfl, forms e List.mem_cons_self⟩

theorem exists_of_getLast?_lowerFrom {cased : Bool}
    (last : (lowerFrom cased cs).getLast? = some d) : ∃ c, cs.getLast? = some c ∧ IsFormOf d c := by
  induction cs generalizing cased with
  | nil => simp [lowerFrom] at last
  | cons c rest ih =>
    obtain ⟨piece, next, parts, some_form, forms⟩ := lowerFrom_cons cased c rest
    rw [parts, List.getLast?_append] at last
    cases later : (lowerFrom next rest).getLast? with
    | some e =>
      rw [later] at last
      obtain rfl := Option.some.inj last
      obtain ⟨b, final, form⟩ := ih later
      exact ⟨b, by rw [List.getLast?_cons, final]; rfl, form⟩
    | none =>
      have nothing : rest = [] := lowerFrom_eq_nil_iff.1 (List.getLast?_eq_none_iff.1 later)
      rw [later] at last
      subst nothing
      exact ⟨c, rfl, forms d (List.mem_of_mem_getLast? last)⟩

theorem lowerFrom_of_lowered (lowered : ∀ c ∈ cs, IsLowered c) (cased : Bool) :
    lowerFrom cased cs = cs := by
  induction cs generalizing cased with
  | nil => rfl
  | cons c rest ih =>
    rw [List.forall_mem_cons] at lowered
    obtain ⟨first, later⟩ := lowered
    rw [lowerFrom, if_neg first.no_sigma, if_neg first.2, first.1, ih later]

theorem lower_lower (cs : List Char) : lower (lower cs) = lower cs := by
  refine lowerFrom_of_lowered (fun d member => ?_) false
  obtain ⟨c, _, form⟩ := exists_of_mem_lowerFrom member
  exact form.isLowered

end Text

section Trim
variable {p : Char → Bool} {cs : List Char}

theorem of_head?_dropWhile {c : Char} (first : (cs.dropWhile p).head? = some c) : p c = false := by
  have unmet := List.head?_dropWhile_not p cs
  rw [first] at unmet
  exact unmet

theorem dropWhile_of_head? (first : ∀ c, cs.head? = some c → p c = false) :
    cs.dropWhile p = cs := by
  rw [List.dropWhile_eq_self_iff]
  intro some
  rw [first cs[0] (List.head?_eq_getElem? ▸ List.getElem?_eq_getElem some)]
  exact Bool.false_ne_true

structure IsTrimmed (p : Char → Bool) (cs : List Char) : Prop where
  first : ∀ c, cs.head? = some c → p c = false
  last : ∀ c, cs.getLast? = some c → p c = false

theorem isTrimmed_trimWhere (p : Char → Bool) (cs : List Char) : IsTrimmed p (trimWhere p cs) := by
  have front : trimWhere p cs <+: cs.dropWhile p := by
    rw [← List.reverse_suffix, trimWhere, List.reverse_reverse]
    exact List.dropWhile_suffix p
  constructor
  · intro c first
    obtain ⟨rest, parts⟩ := front
    have same : (cs.dropWhile p).head? = some c := by
      rw [← parts, List.head?_append, first]
      rfl
    exact of_head?_dropWhile same
  · intro c last
    rw [trimWhere, List.getLast?_reverse] at last
    exact of_head?_dropWhile last

theorem IsTrimmed.trimWhere_between (trimmed : IsTrimmed p cs) (some : cs ≠ [])
    {front back : List Char} (before : ∀ c ∈ front, p c = true) (after : ∀ c ∈ back, p c = true) :
    trimWhere p (front ++ cs ++ back) = cs := by
  have first : (front ++ cs ++ back).dropWhile p = cs ++ back := by
    rw [List.append_assoc, List.dropWhile_append_of_pos before]
    refine dropWhile_of_head? fun c head => trimmed.first c ?_
    obtain ⟨b, rest, rfl⟩ := List.exists_cons_of_ne_nil some
    exact head
  have last : (cs ++ back).reverse.dropWhile p = cs.reverse := by
    have behind : ∀ c ∈ back.reverse, p c = true := fun c member => after c (by simpa using member)
    rw [List.reverse_append, List.dropWhile_append_of_pos behind]
    refine dropWhile_of_head? fun c head => trimmed.last c ?_
    rwa [List.head?_reverse] at head
  rw [trimWhere, first, last, List.reverse_reverse]

theorem IsTrimmed.trimWhere_eq (trimmed : IsTrimmed p cs) : trimWhere p cs = cs := by
  by_cases nothing : cs = []
  · rw [nothing]
    rfl
  · have kept := trimmed.trimWhere_between nothing (List.forall_mem_nil _) (List.forall_mem_nil _)
    rwa [List.append_nil] at kept

theorem IsTrimmed.lower (trimmed : IsTrimmed isBlank cs) : IsTrimmed isBlank (lower cs) := by
  constructor
  · intro d first
    obtain ⟨c, same, form⟩ := exists_of_head?_lowerFrom first
    exact form.isBlank (trimmed.first c same)
  · intro d last
    obtain ⟨c, same, form⟩ := exists_of_getLast?_lowerFrom last
    exact form.isBlank (trimmed.last c same)

end Trim

theorem normalize_normalize (s : String) : normalize (normalize s) = normalize s := by
  have trimmed : IsTrimmed isBlank (lower (trim s.toList)) :=
    (isTrimmed_trimWhere isBlank s.toList).lower
  have kept : trim (lower (trim s.toList)) = lower (trim s.toList) := trimmed.trimWhere_eq
  rw [normalize, normalize, String.toList_ofList, kept, lower_lower]

end SignatureRouting
