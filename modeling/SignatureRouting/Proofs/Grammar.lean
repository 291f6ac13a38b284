import SignatureRouting.Proofs.Lowering
import SignatureRouting.Workflow.Error

/-!
What is read as a cardinality. Nothing stands for an open one, two words and the positive numbers
for the others, and a number may be written in ASCII digits with zeros before and blanks around it.
All of this is read and nothing else, except that a numeral is not read if it has more digits than
the limit, zeros included, and that nothing is refused which would have to show an integer beyond
the limit.
-/
namespace SignatureRouting

namespace Cardinality

structure IsNumeral (s : String) (n : Nat) : Prop where
  some_digit : trim s.toList ≠ []
  digits : ∀ c ∈ trim s.toList, c.isDigit = true
  value : Nat.ofDigitChars 10 (trim s.toList) 0 = n

inductive Denotes : Value → Option Cardinality → Prop where
  | unsaid : Denotes .null none
  | one {s : String} (word : normalize s = "one") : Denotes (.text s) (some .one)
  | all {s : String} (word : normalize s = "all") : Denotes (.text s) (some .all)
  | numeral {s : String} {n : Nat} (numeral : IsNumeral s n) (positive : 1 ≤ n) :
      Denotes (.text s) (some (.exact (.int n)))
  | number {n : Int} (positive : 1 ≤ n) : Denotes (.int n) (some (.exact (.int n)))

/-- The value is a numeral of too many digits, or means nothing and holds an integer of too many. -/
inductive Exceeds : Value → Overlong → Prop where
  | numeral {s : String} {n : Nat} (numeral : IsNumeral s n)
      (many : numeralLimit < (trim s.toList).length) :
      Exceeds (.text s) (.read (trim s.toList).length)
  | refused {raw : Value} (nothing : ∀ c, ¬ Denotes raw c) (long : raw.isWritable = false) :
      Exceeds raw .written

/-- What the refusal of a value shows: the number where a numeral for zero was read, and otherwise
the value as it is authored. -/
inductive ShownAs : Value → Value → Prop where
  | zero {s : String} (numeral : IsNumeral s 0) : ShownAs (.text s) (.int 0)
  | authored {raw : Value} (other : ∀ s, raw = .text s → ¬ IsNumeral s 0) : ShownAs raw raw

section Digits
variable {cs : List Char}

theorem isPlainDigit_eq (c : Char) : isPlainDigit c = c.isDigit := by
  rw [Bool.eq_iff_iff, isPlainDigit, inRange, Char.isDigit, Bool.and_eq_true, Bool.and_eq_true,
    decide_eq_true_eq, decide_eq_true_eq, decide_eq_true_eq, decide_eq_true_eq]
  exact Iff.rfl

theorem of_plainDigit {P : Char → Prop} (each : ∀ n < 10, P (Char.ofNat (0x30 + n))) {c : Char}
    (plain : isPlainDigit c = true) : P c := by
  rw [isPlainDigit, inRange, Bool.and_eq_true, decide_eq_true_eq, decide_eq_true_eq] at plain
  obtain ⟨least, most⟩ := plain
  have code := each (c.toNat - 0x30) (by omega)
  rwa [Nat.add_sub_cancel' least, Char.ofNat_toNat] at code

theorem isLowered_of_digit {c : Char} (digit : c.isDigit = true) : IsLowered c := by
  rw [← isPlainDigit_eq] at digit
  exact of_plainDigit (P := IsLowered) (by unfold IsLowered; decide) digit

theorem isBlank_of_digit {c : Char} (digit : c.isDigit = true) : isBlank c = false := by
  rw [← isPlainDigit_eq] at digit
  exact of_plainDigit (P := fun c => isBlank c = false) (by decide) digit

theorem lower_of_digits (digits : ∀ c ∈ cs, c.isDigit = true) : lower cs = cs :=
  lowerFrom_of_lowered (fun c member => isLowered_of_digit (digits c member)) false

theorem digits_lower_iff : (∀ d ∈ lower cs, d.isDigit = true) ↔ ∀ c ∈ cs, c.isDigit = true := by
  constructor
  · intro digits c member
    obtain ⟨d, among, form⟩ := exists_form_of_mem false member
    have digit := digits d among
    rw [form.eq_of_digit ((isPlainDigit_eq d).trans digit)] at digit
    exact digit
  · intro digits d member
    rw [lower_of_digits digits] at member
    exact digits d member

theorem plainDigits?_eq_some_iff {digits : List Nat} : plainDigits? cs = some digits ↔
    cs ≠ [] ∧ (∀ c ∈ cs, c.isDigit = true) ∧ cs.map plainDigit = digits := by
  have condition : (!cs.isEmpty && cs.all isPlainDigit) = true ↔
      cs ≠ [] ∧ ∀ c ∈ cs, c.isDigit = true := by
    simp only [Bool.and_eq_true, Bool.not_eq_true', List.isEmpty_eq_false_iff, List.all_eq_true,
      isPlainDigit_eq]
  rw [plainDigits?, Option.ite_none_right_eq_some, condition, Option.some.injEq, and_assoc]

theorem ofDigits_eq : ofDigits (cs.map plainDigit) = Nat.ofDigitChars 10 cs 0 := by
  rw [ofDigits, List.foldl_map]
  rfl

end Digits

section Text
variable {s : String}

theorem IsNumeral.normalize_eq {n : Nat} (numeral : IsNumeral s n) :
    normalize s = String.ofList (trim s.toList) := by
  rw [normalize, lower_of_digits numeral.digits]

theorem IsNumeral.no_word {n : Nat} (numeral : IsNumeral s n) {word : String}
    (letter : ∃ c ∈ word.toList, c.isDigit = false) : normalize s ≠ word := by
  obtain ⟨c, member, other⟩ := letter
  intro same
  rw [← same, numeral.normalize_eq, String.toList_ofList] at member
  rw [numeral.digits c member] at other
  contradiction

theorem ofText_of_numeral {n : Nat} (numeral : IsNumeral s n) : ofText s =
    if numeralLimit < (trim s.toList).length then
      .error (.overlong (.read (trim s.toList).length))
    else positive n := by
  have digits : plainDigits? (normalize s).toList = some ((trim s.toList).map plainDigit) := by
    rw [numeral.normalize_eq, String.toList_ofList, plainDigits?_eq_some_iff]
    exact ⟨numeral.some_digit, numeral.digits, rfl⟩
  have no_one : normalize s ≠ "one" := numeral.no_word ⟨'o', by decide, by decide⟩
  have no_all : normalize s ≠ "all" := numeral.no_word ⟨'a', by decide, by decide⟩
  unfold ofText
  simp only [if_neg no_one, if_neg no_all, digits, List.length_map, ofDigits_eq, numeral.value]

theorem ofText_of_other (no_one : normalize s ≠ "one") (no_all : normalize s ≠ "all")
    (no_numeral : ∀ n, ¬ IsNumeral s n) : ofText s = .error (.unreadable (.text s)) := by
  have letters : plainDigits? (normalize s).toList = none := by
    rw [normalize, String.toList_ofList, Option.eq_none_iff_forall_ne_some]
    intro ns read
    obtain ⟨some, digits, _⟩ := plainDigits?_eq_some_iff.1 read
    rw [digits_lower_iff] at digits
    rw [lower_of_digits digits] at some
    exact no_numeral _ ⟨some, digits, rfl⟩
  unfold ofText
  simp only [if_neg no_one, if_neg no_all, letters]
  rfl

end Text

section Parse
variable {raw : Value} {c : Option Cardinality} {o : Overlong}

theorem ShownAs.isWritable_eq {shown : Value} (shows : ShownAs raw shown) :
    shown.isWritable = raw.isWritable := by
  cases shows with
  | zero _ => rfl
  | authored _ => rfl

theorem parse_of_denotes (denotes : Denotes raw c) (short : ∀ k, ¬ Exceeds raw (.read k)) :
    parse raw = .ok c := by
  cases denotes with
  | unsaid => rfl
  | one word => simp [parse, ofText, word, Except.map]
  | all word => simp [parse, ofText, word, Except.map]
  | numeral numeral least =>
    rename_i s n
    have few : ¬ numeralLimit < (trim s.toList).length :=
      fun many => short _ (.numeral numeral many)
    have above : (0 : Int) < n := by omega
    rw [parse, ofText_of_numeral numeral, if_neg few, positive, if_pos above]
    rfl
  | number least =>
    rename_i n
    have above : 0 < n := by omega
    rw [parse, positive, if_pos above]
    rfl

theorem ofText_refused {s : String} (nothing : ∀ c, ¬ Denotes (.text s) c)
    (short : ∀ k, ¬ Exceeds (.text s) (.read k)) :
    ∃ shown, ShownAs (.text s) shown ∧ ofText s = .error (refuse shown) := by
  by_cases numeric : ∃ n, IsNumeral s n
  · obtain ⟨n, numeral⟩ := numeric
    have few : ¬ numeralLimit < (trim s.toList).length :=
      fun many => short _ (.numeral numeral many)
    have zero : n = 0 := by
      by_contra other
      exact nothing _ (.numeral numeral (by omega))
    subst zero
    refine ⟨.int 0, .zero numeral, ?_⟩
    rw [ofText_of_numeral numeral, if_neg few]
    rfl
  · have no_numeral : ∀ n, ¬ IsNumeral s n := fun n numeral => numeric ⟨n, numeral⟩
    refine ⟨.text s, .authored ?_, ?_⟩
    · intro other same
      obtain rfl := Value.text.inj same
      exact no_numeral 0
    · exact ofText_of_other (fun word => nothing _ (.one word)) (fun word => nothing _ (.all word))
        no_numeral

theorem parse_refused (nothing : ∀ c, ¬ Denotes raw c) (short : ∀ k, ¬ Exceeds raw (.read k)) :
    ∃ shown, ShownAs raw shown ∧ parse raw = .error (refuse shown) := by
  cases raw with
  | null => exact absurd .unsaid (nothing _)
  | text s =>
    obtain ⟨shown, shows, refused⟩ := ofText_refused nothing short
    exact ⟨shown, shows, by rw [parse, refused]; rfl⟩
  | int n =>
    have below : ¬ 0 < n := fun above => nothing _ (.number above)
    exact ⟨.int n, .authored nofun, by rw [parse, positive, if_neg below]; rfl⟩
  | bool b => exact ⟨.bool b, .authored nofun, rfl⟩
  | float x => exact ⟨.float x, .authored nofun, rfl⟩
  | list items => exact ⟨.list items, .authored nofun, rfl⟩
  | object fields => exact ⟨.object fields, .authored nofun, rfl⟩

theorem parse_of_exceeds (exceeds : Exceeds raw o) : parse raw = .error (.overlong o) := by
  cases exceeds with
  | numeral numeral many =>
    rw [parse, ofText_of_numeral numeral, if_pos many]
    rfl
  | refused nothing long =>
    have no_numeral : ∀ k, ¬ Exceeds raw (.read k) := by
      rintro k ⟨_, _⟩
      cases long
    obtain ⟨shown, shows, refused⟩ := parse_refused nothing no_numeral
    rw [refused, refuse_eq, shows.isWritable_eq, long]
    rfl

theorem parse_cases (raw : Value) :
    (∃ o, Exceeds raw o ∧ parse raw = .error (.overlong o)) ∨
      (∀ o, ¬ Exceeds raw o) ∧ ((∃ c, Denotes raw c ∧ parse raw = .ok c) ∨
        (∀ c, ¬ Denotes raw c) ∧ ∃ shown text, ShownAs raw shown ∧ shown.quoted = .ok text ∧
          parse raw = .error (.unreadable shown)) := by
  by_cases long : ∃ o, Exceeds raw o
  · obtain ⟨o, exceeds⟩ := long
    exact Or.inl ⟨o, exceeds, parse_of_exceeds exceeds⟩
  · have short : ∀ o, ¬ Exceeds raw o := fun o exceeds => long ⟨o, exceeds⟩
    refine Or.inr ⟨short, ?_⟩
    by_cases some : ∃ c, Denotes raw c
    · obtain ⟨c, denotes⟩ := some
      exact Or.inl ⟨c, denotes, parse_of_denotes denotes fun k => short (.read k)⟩
    · have nothing : ∀ c, ¬ Denotes raw c := fun c denotes => some ⟨c, denotes⟩
      obtain ⟨shown, shows, refused⟩ := parse_refused nothing fun k => short (.read k)
      have writable : shown.isWritable = true := by
        rw [shows.isWritable_eq, ← Bool.not_eq_false]
        exact fun unwritable => short _ (.refused nothing unwritable)
      obtain ⟨text, quotes⟩ := shown.writesIf_quoted.made writable
      rw [refuse_eq, writable] at refused
      exact Or.inr ⟨nothing, shown, text, shows, quotes, refused⟩

theorem parse_eq_ok_iff : parse raw = .ok c ↔ Denotes raw c ∧ ∀ o, ¬ Exceeds raw o := by
  constructor
  · intro read
    rcases parse_cases raw with
      ⟨o, _, refused⟩ | ⟨short, ⟨d, denotes, same⟩ | ⟨_, shown, _, _, _, refused⟩⟩
    · cases read.symm.trans refused
    · obtain rfl := Except.ok.inj (read.symm.trans same)
      exact ⟨denotes, short⟩
    · cases read.symm.trans refused
  · rintro ⟨denotes, short⟩
    exact parse_of_denotes denotes fun k => short (.read k)

theorem parse_eq_overlong_iff : parse raw = .error (.overlong o) ↔ Exceeds raw o := by
  constructor
  · intro long
    rcases parse_cases raw with
      ⟨l, exceeds, refused⟩ | ⟨_, ⟨d, _, read⟩ | ⟨_, shown, _, _, _, refused⟩⟩
    · obtain rfl := Malformed.overlong.inj (Except.error.inj (long.symm.trans refused))
      exact exceeds
    · cases long.symm.trans read
    · cases long.symm.trans refused
  · exact parse_of_exceeds

end Parse

def padded (front : List Char) (zeros n : Nat) (back : List Char) : String :=
  String.ofList (front ++ (List.replicate zeros '0' ++ Nat.toDigits 10 n) ++ back)

theorem padded_alone (zeros n : Nat) :
    padded [] zeros n [] = String.ofList (List.replicate zeros '0' ++ Nat.toDigits 10 n) := by
  rw [padded, List.nil_append, List.append_nil]

section Padded
variable {front back : List Char} (before : ∀ c ∈ front, isBlank c = true)
  (after : ∀ c ∈ back, isBlank c = true) (zeros n : Nat)

theorem digit_of_padded {c : Char} (member : c ∈ List.replicate zeros '0' ++ Nat.toDigits 10 n) :
    c.isDigit = true := by
  rcases List.mem_append.1 member with zero | digit
  · rw [List.eq_of_mem_replicate zero]
    decide
  · exact Nat.isDigit_of_mem_toDigits (by omega) (by omega) digit

include before after

theorem trim_padded : trim (padded front zeros n back).toList =
    List.replicate zeros '0' ++ Nat.toDigits 10 n := by
  have trimmed : IsTrimmed isBlank (List.replicate zeros '0' ++ Nat.toDigits 10 n) :=
    ⟨fun c first => isBlank_of_digit (digit_of_padded zeros n (List.mem_of_mem_head? first)),
      fun c last => isBlank_of_digit (digit_of_padded zeros n (List.mem_of_mem_getLast? last))⟩
  rw [padded, String.toList_ofList, trim]
  refine trimmed.trimWhere_between ?_ before after
  exact List.append_ne_nil_of_right_ne_nil _ Nat.toDigits_ne_nil

theorem isNumeral_padded : IsNumeral (padded front zeros n back) n := by
  have digits := trim_padded before after zeros n
  constructor
  case some_digit =>
    rw [digits]
    exact List.append_ne_nil_of_right_ne_nil _ Nat.toDigits_ne_nil
  case digits =>
    rw [digits]
    exact fun c member => digit_of_padded zeros n member
  case value =>
    rw [digits, Nat.ofDigitChars_append, Nat.ofDigitChars_replicate_zero, Nat.mul_zero,
      Nat.ofDigitChars_ten_toDigits]

theorem parse_padded (least : 1 ≤ n) : parse (.text (padded front zeros n back)) =
    if zeros + (Nat.toDigits 10 n).length ≤ numeralLimit then .ok (some (.exact (.int n)))
    else .error (.overlong (.read (zeros + (Nat.toDigits 10 n).length))) := by
  have numeral := isNumeral_padded before after zeros n
  have width : (trim (padded front zeros n back).toList).length =
      zeros + (Nat.toDigits 10 n).length := by
    rw [trim_padded before after, List.length_append, List.length_replicate]
  split
  · rename_i few
    refine parse_of_denotes (.numeral numeral least) ?_
    rintro k ⟨_, many⟩
    omega
  · rename_i many
    rw [← width]
    exact parse_of_exceeds (.numeral numeral (by omega))

end Padded

structure FollowsGrammar (raw : Value) : Prop where
  read : ∀ c, parse raw = .ok c ↔ Denotes raw c
  refused : (∀ c, ¬ Denotes raw c) → ∃ shown text, ShownAs raw shown ∧ shown.quoted = .ok text ∧
    parse raw = .error (.unreadable shown) ∧
      (BuildError.ofCardinality (.unreadable shown)).failure =
        .signing (.plain .badRequest s!"Bad cardinality {text}")

theorem Exceeds.not_followsGrammar {raw : Value} {o : Overlong} (exceeds : Exceeds raw o) :
    ¬ FollowsGrammar raw := by
  intro follows
  have long := parse_of_exceeds exceeds
  by_cases some : ∃ c, Denotes raw c
  · obtain ⟨c, denotes⟩ := some
    cases long.symm.trans ((follows.read c).2 denotes)
  · obtain ⟨shown, _, _, _, refused, _⟩ := follows.refused fun c denotes => some ⟨c, denotes⟩
    cases long.symm.trans refused

/-- The grammar is followed but for a numeral beyond the limit, which ends the reading, and for what
is to be refused and cannot be shown. So every positive number that is not too long is read as
itself, with any blanks around it and zeros before it. -/
theorem follows_grammar_iff_within_limit (raw : Value) :
    (FollowsGrammar raw ↔ ∀ o, ¬ Exceeds raw o) ∧
    (∀ o, parse raw = .error (.overlong o) ↔ Exceeds raw o) ∧
    ∀ front back zeros n, (∀ c ∈ front, isBlank c = true) → (∀ c ∈ back, isBlank c = true) →
      1 ≤ n → raw = .text (padded front zeros n back) → parse raw =
        if zeros + (Nat.toDigits 10 n).length ≤ numeralLimit then .ok (some (.exact (.int n)))
        else .error (.overlong (.read (zeros + (Nat.toDigits 10 n).length))) := by
  refine ⟨⟨fun follows o exceeds => exceeds.not_followsGrammar follows, ?_⟩,
    fun o => parse_eq_overlong_iff, ?_⟩
  · intro short
    constructor
    · intro c
      rw [parse_eq_ok_iff]
      exact and_iff_left short
    · intro nothing
      rcases parse_cases raw with
        ⟨o, exceeds, _⟩ | ⟨_, ⟨c, denotes, _⟩ | ⟨_, shown, text, shows, quotes, refused⟩⟩
      · exact absurd exceeds (short o)
      · exact absurd denotes (nothing c)
      · refine ⟨shown, text, shows, quotes, refused, ?_⟩
        rw [BuildError.ofCardinality, BuildError.failure, quotes]
        rfl
  · rintro front back zeros n before after least rfl
    exact parse_padded before after zeros n least

theorem follows_grammar_iff_within_limit_at_twelve :
    parse (.text (padded ['\t'] 4298 12 ['\u3000'])) = .ok (some (.exact (.int 12))) ∧
      parse (.text (padded ['\t'] 4299 12 ['\u3000'])) = .error (.overlong (.read 4301)) ∧
      FollowsGrammar (.bool true) := by
  have before : ∀ c ∈ ['\t'], isBlank c = true := List.forall_mem_singleton.2 (by decide)
  have after : ∀ c ∈ ['\u3000'], isBlank c = true := List.forall_mem_singleton.2 (by decide)
  have two : (Nat.toDigits 10 12).length = 2 := by decide
  refine ⟨?_, ?_, ?_⟩
  · obtain ⟨_, _, read⟩ := follows_grammar_iff_within_limit _
    rw [read _ _ _ _ before after (by omega) rfl, two]
    rfl
  · obtain ⟨_, _, read⟩ := follows_grammar_iff_within_limit _
    rw [read _ _ _ _ before after (by omega) rfl, two]
    rfl
  · exact (follows_grammar_iff_within_limit (.bool true)).1.2 nofun

/-- The limit shows: a numeral for one can be too long to be read, and a number below zero too long
to be refused. -/
theorem padded_one_unread :
    ¬ FollowsGrammar (.text (padded [] 4300 1 [])) ∧ ¬ FollowsGrammar (.int (-leastOverlong)) := by
  constructor
  · have numeral : IsNumeral (padded [] 4300 1 []) 1 :=
      isNumeral_padded (List.forall_mem_nil _) (List.forall_mem_nil _) 4300 1
    refine (Exceeds.numeral numeral ?_).not_followsGrammar
    have one : (Nat.toDigits 10 1).length = 1 := by decide
    rw [trim_padded (List.forall_mem_nil _) (List.forall_mem_nil _), List.length_append,
      List.length_replicate, one]
    decide
  · have nothing : ∀ c, ¬ Denotes (.int (-leastOverlong)) c := by
      rintro _ ⟨positive⟩
      omega
    have long : (Value.int (-leastOverlong)).isWritable = false := by
      rw [Value.isWritable, isWithinLimit, Int.natAbs_neg]
      exact isWithinLimit_leastOverlong
    exact (Exceeds.refused nothing long).not_followsGrammar

end Cardinality
end SignatureRouting
