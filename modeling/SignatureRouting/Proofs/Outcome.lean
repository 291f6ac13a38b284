import Mathlib.Data.List.Forall2

/-!
Computations that can be refused. One after the other, the first refusal counts; over a list, that
of the first element that is refused.
-/
namespace SignatureRouting

section Outcome
variable {ε δ α β : Type}

theorem bind_eq_ok {x : Except ε α} {f : α → Except ε β} {b : β} :
    x >>= f = .ok b ↔ ∃ a, x = .ok a ∧ f a = .ok b := by
  cases x with
  | error e => simp [bind, Except.bind]
  | ok a => simp [bind, Except.bind]

theorem bind_eq_error {x : Except ε α} {f : α → Except ε β} {e : ε} :
    x >>= f = .error e ↔ x = .error e ∨ ∃ a, x = .ok a ∧ f a = .error e := by
  cases x with
  | error e' => simp [bind, Except.bind]
  | ok a => simp [bind, Except.bind]

theorem mapError_eq_ok {x : Except ε α} {f : ε → δ} {a : α} :
    x.mapError f = .ok a ↔ x = .ok a := by
  cases x <;> simp [Except.mapError]

theorem mapError_eq_error {x : Except ε α} {f : ε → δ} {d : δ} :
    x.mapError f = .error d ↔ ∃ e, x = .error e ∧ f e = d := by
  cases x <;> simp [Except.mapError]

theorem exists_forall₂ {P : α → β → Prop} {l : List α} (each : ∀ a ∈ l, ∃ b, P a b) :
    ∃ m, List.Forall₂ P l m := by
  induction l with
  | nil => exact ⟨[], List.Forall₂.nil⟩
  | cons a rest ih =>
    rw [List.forall_mem_cons] at each
    obtain ⟨b, first⟩ := each.1
    obtain ⟨m, later⟩ := ih each.2
    exact ⟨b :: m, List.Forall₂.cons first later⟩

theorem mapM_eq_ok {f : α → Except ε β} {l : List α} {r : List β} :
    l.mapM f = .ok r ↔ List.Forall₂ (fun a b => f a = .ok b) l r := by
  induction l generalizing r with
  | nil =>
    rw [List.forall₂_nil_left_iff, List.mapM_nil]
    exact ⟨fun same => (Except.ok.inj same).symm, fun none => congrArg Except.ok none.symm⟩
  | cons a rest ih =>
    rw [List.mapM_cons, bind_eq_ok, List.forall₂_cons_left_iff]
    constructor
    · rintro ⟨b, first, later⟩
      obtain ⟨bs, others, same⟩ := bind_eq_ok.1 later
      exact ⟨b, bs, first, ih.1 others, (Except.ok.inj same).symm⟩
    · rintro ⟨b, bs, first, others, rfl⟩
      exact ⟨b, first, bind_eq_ok.2 ⟨bs, ih.2 others, rfl⟩⟩

theorem exists_mapM {f : α → Except ε β} {P : α → β → Prop} {l : List α}
    (each : ∀ a ∈ l, ∃ b, f a = .ok b ∧ P a b) : ∃ r, l.mapM f = .ok r ∧ List.Forall₂ P l r := by
  obtain ⟨r, together⟩ := exists_forall₂ each
  exact ⟨r, mapM_eq_ok.2 (together.imp fun _ _ => And.left), together.imp fun _ _ => And.right⟩

theorem exists_mapM_eq_ok {f : α → Except ε β} {l : List α} :
    (∃ r, l.mapM f = .ok r) ↔ ∀ a ∈ l, ∃ b, f a = .ok b := by
  simp only [mapM_eq_ok]
  constructor
  · rintro ⟨r, together⟩ a member
    obtain ⟨i, inside, rfl⟩ := List.mem_iff_getElem.1 member
    exact ⟨_, together.get inside (together.length_eq ▸ inside)⟩
  · exact exists_forall₂

theorem mapM_eq_error {f : α → Except ε β} {l : List α} {e : ε} :
    l.mapM f = .error e ↔ ∃ front a back, l = front ++ a :: back ∧
      (∀ x ∈ front, ∃ b, f x = .ok b) ∧ f a = .error e := by
  induction l with
  | nil => simp [List.mapM_nil, pure, Except.pure]
  | cons a rest ih =>
    rw [List.mapM_cons, bind_eq_error]
    constructor
    · rintro (here | ⟨b, first, later⟩)
      · exact ⟨[], a, rest, rfl, by simp, here⟩
      · rcases bind_eq_error.1 later with other | ⟨_, _, nothing⟩
        · obtain ⟨front, x, back, rfl, before, refused⟩ := ih.1 other
          exact ⟨a :: front, x, back, rfl, List.forall_mem_cons.2 ⟨⟨b, first⟩, before⟩, refused⟩
        · cases nothing
    · rintro ⟨front, x, back, parts, before, refused⟩
      cases front with
      | nil =>
        obtain ⟨rfl, rfl⟩ := List.cons.inj parts
        exact Or.inl refused
      | cons y front =>
        obtain ⟨rfl, rfl⟩ := List.cons.inj parts
        obtain ⟨⟨b, first⟩, before⟩ := List.forall_mem_cons.1 before
        have later := ih.2 ⟨front, x, back, rfl, before, refused⟩
        exact Or.inr ⟨b, first, bind_eq_error.2 (Or.inl later)⟩

end Outcome

end SignatureRouting
