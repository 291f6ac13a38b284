import SignatureRouting.Proofs.Reload

/-!
Loading whatever is given. The fields of a stored automaton are read one after the other, each in
its own way, and whatever is wrong with one of them ends in an internal error. Two things escape: an
infinite number where a whole one is read, and a cursor so far outside that its number cannot be
written. So loading is total, and what it gives has its cursor in range and a list of actors for
each open document.
-/
namespace SignatureRouting
open Value

namespace Value
variable {v w : Value} {name : String}

theorem required_eq_ok : v.required name = .ok w ↔ v.field? name = some w := by
  cases v with
  | object fields =>
    rw [required]
    cases (object fields).field? name <;> simp [complain]
  | _ => simp [required, complain, field?]

theorem storedTag_eq_ok {word : String} : v.storedTag = .ok word ↔ v.written = .ok word := by
  rw [storedTag]
  cases v.written <;> simp [complain]

theorem collection_eq_ok {items : List Value} :
    v.collection = .ok items ↔ v.elements? = some items := by
  rw [collection]
  cases v.elements? <;> simp [complain]

theorem wholeNumber_eq_unbounded :
    v.wholeNumber = .error .unbounded ↔ ∃ negative, v = .float (.infinite negative) := by
  cases v with
  | float x => cases x <;> simp [wholeNumber, Binary64.truncate, complain]
  | text s =>
    rw [wholeNumber]
    split <;> simp [complain]
  | _ => simp [wholeNumber, complain]

theorem wholeNumber_ne_unsaid {o : Overlong} : v.wholeNumber ≠ .error (.unsaid o) := by
  cases v with
  | float x => cases x <;> simp [wholeNumber, Binary64.truncate, complain]
  | text s =>
    rw [wholeNumber]
    split <;> simp [complain]
  | _ => simp [wholeNumber, complain]

theorem storedRole_ne_unbounded : v.storedRole ≠ .error .unbounded := by
  rw [storedRole]
  split
  · split
    · simp
    · split <;> simp [complain]
  · simp [complain]

def Complains {α : Type} (x : Except FieldError α) : Prop :=
  ∀ e, x = .error e → ∃ c, e = .complaint c

theorem Complains.ne_unbounded {α : Type} {x : Except FieldError α} (h : Complains x) :
    x ≠ .error .unbounded := by
  intro failed
  obtain ⟨c, same⟩ := h _ failed
  cases same

theorem Complains.ne_unsaid {α : Type} {x : Except FieldError α} (h : Complains x)
    {o : Overlong} : x ≠ .error (.unsaid o) := by
  intro failed
  obtain ⟨c, same⟩ := h _ failed
  cases same

theorem complains_ok {α : Type} (a : α) : Complains (.ok a) := nofun

theorem complains_complain {α : Type} (c : Complaint) : Complains (complain c : Except _ α) := by
  rintro e same
  exact ⟨c, (Except.error.inj same).symm⟩

theorem Complains.bind {α β : Type} {x : Except FieldError α} {f : α → Except FieldError β}
    (h : Complains x) (k : ∀ a, Complains (f a)) : Complains (x >>= f) := by
  intro e failed
  rcases bind_eq_error.1 failed with first | ⟨a, _, then_⟩
  · exact h e first
  · exact k a e then_

theorem complains_required : Complains (v.required name) := by
  cases v with
  | object fields =>
    rw [required]
    split
    · exact complains_ok _
    · exact complains_complain _
  | _ => exact complains_complain _

theorem complains_storedTag : Complains v.storedTag := by
  rw [storedTag]
  split
  · exact complains_ok _
  · exact complains_complain _

theorem complains_collection : Complains v.collection := by
  rw [collection]
  split
  · exact complains_ok _
  · exact complains_complain _

theorem complains_optionalCollection : Complains (v.optionalCollection name) := by
  rw [optionalCollection]
  split
  · exact complains_collection
  · exact complains_ok _

theorem complains_mapM_collection {items : List Value} : Complains (items.mapM collection) := by
  intro e failed
  obtain ⟨_, _, _, _, _, refused⟩ := mapM_eq_error.1 failed
  exact complains_collection _ refused

/-- An infinite number stands in a stored node where a whole one is read, and everything that is
read before it can be read. -/
inductive InfiniteInNode (v : Value) : Prop where
  | step {negative : Bool} (there : v.field? "step_index" = some (.float (.infinite negative)))
  | quota {negative : Bool} (step : ∃ w n, v.field? "step_index" = some w ∧ w.wholeNumber = .ok n)
      (role : ∃ w r, v.field? "role_type" = some w ∧ w.storedRole = .ok r)
      (tag : ∃ w word, v.field? "tag" = some w ∧ w.storedTag = .ok word)
      (actors : ∃ w items, v.field? "aids" = some w ∧ w.elements? = some items)
      (documents : ∃ w items, v.field? "dids" = some w ∧ w.elements? = some items)
      (there : v.field? "concerned_actors" = some (.float (.infinite negative)))

inductive InfiniteInAutomaton (v : Value) : Prop where
  | node {stored item : Value} {front back : List Value} (there : v.field? "nodes" = some stored)
      (listed : stored.elements? = some (front ++ item :: back))
      (before : ∀ x ∈ front, ∃ n, Node.ofValue x = .ok n) (infinite : item.InfiniteInNode)
  | cursor {stored : Value} {items : List Value} {negative : Bool}
      (nodes : v.field? "nodes" = some stored) (listed : stored.elements? = some items)
      (before : ∀ x ∈ items, ∃ n, Node.ofValue x = .ok n)
      (there : v.field? "index" = some (.float (.infinite negative)))

structure CursorOutside (v : Value) (items : List Value) (n : Int) : Prop where
  nodes : ∃ w, v.field? "nodes" = some w ∧ w.elements? = some items
  before : ∀ x ∈ items, ∃ n, Node.ofValue x = .ok n
  index : ∃ w, v.field? "index" = some w ∧ w.wholeNumber = .ok n
  outside : ¬ (0 ≤ n ∧ n ≤ items.length)

end Value

namespace LoadError

def IsInternal (e : LoadError) : Prop := ∃ text, e.failure = .signing (.plain .internal text)

section Field
variable {α : Type} {x : Except FieldError α} {wrap : Complaint → LoadError}

theorem mapError_eq_unbounded (reports : ∀ c, (wrap c).IsInternal) :
    x.mapError (ofField wrap) = .error .unbounded ↔ x = .error .unbounded := by
  rw [mapError_eq_error]
  constructor
  · rintro ⟨e, refused, same⟩
    cases e with
    | unbounded => exact refused
    | unsaid o => cases same
    | complaint c =>
      obtain ⟨text, internal⟩ := reports c
      rw [show wrap c = .unbounded from same] at internal
      cases internal
  · exact fun refused => ⟨_, refused, rfl⟩

theorem internal_of_mapError (reports : ∀ c, (wrap c).IsInternal) {e : LoadError}
    (refused : x.mapError (ofField wrap) = .error e) :
    e = .unbounded ∨ (∃ o, x = .error (.unsaid o) ∧ e = .unsaid o) ∨ e.IsInternal := by
  obtain ⟨f, failed, rfl⟩ := mapError_eq_error.1 refused
  cases f with
  | unbounded => exact Or.inl rfl
  | unsaid o => exact Or.inr (Or.inl ⟨o, failed, rfl⟩)
  | complaint c => exact Or.inr (Or.inr (reports c))

end Field

theorem node_isInternal (c : Complaint) : (node c).IsInternal := ⟨_, rfl⟩

theorem automaton_isInternal (c : Complaint) : (automaton c).IsInternal := ⟨_, rfl⟩

theorem ofNodeShape_misaligned (step : Value) (progress documents : Nat) :
    (ofNodeShape (.misaligned step progress documents)).IsInternal := by
  let e := ShapeError.misaligned step progress documents
  have raises : e.failure.RaisesIf step.isWritable fun s => ∃ text, s = .plain .internal text :=
    Failure.raisesIf_ofMessage ((writesIf_written step).map _) .internal fun m _ => ⟨m, rfl⟩
  cases short : step.isWritable with
  | true =>
    obtain ⟨_, told, text, rfl⟩ := raises.told short
    have same : ofNodeShape e = .shape e := by simp only [ofNodeShape, e, told]
    exact ⟨text, same ▸ told⟩
  | false =>
    have same : ofNodeShape e = .node (.overlong .written) := by
      have unsaid := raises.unsaid short
      simp only [ofNodeShape, e, unsaid]
    exact same ▸ node_isInternal _

theorem ofNode_eq_unbounded {e : LoadError} : ofNode e = .unbounded ↔ e = .unbounded := by
  cases e <;> simp [ofNode]

theorem IsInternal.ofNode {e : LoadError} (internal : e.IsInternal) : e.ofNode.IsInternal := by
  cases e with
  | unsaid o => exact automaton_isInternal _
  | _ => exact internal

end LoadError

namespace Node

structure Parts.ReadFrom (p : Parts) (v : Value) : Prop where
  step : ∃ w place, v.field? "step_index" = some w ∧ w.wholeNumber = .ok place ∧ p.step = .int place
  role : ∃ w, v.field? "role_type" = some w ∧ w.storedRole = .ok p.role
  tag : ∃ w word, v.field? "tag" = some w ∧ w.written = .ok word ∧ p.tag = .text word
  actors : ∃ w, v.field? "aids" = some w ∧ w.elements? = some p.actors
  documents : ∃ w, v.field? "dids" = some w ∧ w.elements? = some p.documents
  quota : ∃ w count, v.field? "concerned_actors" = some w ∧ w.wholeNumber = .ok count ∧
    p.quota = .int count
  progress : ∃ w lists, v.field? "working_documents" = some w ∧ w.elements? = some lists ∧
    List.Forall₂ (fun l acted => l.elements? = some acted) lists p.progress

theorem Parts.readFrom {v : Value} {p : Parts} (read : Parts.read v = .ok p) : p.ReadFrom v := by
  simp only [Parts.read, bind_eq_ok, required_eq_ok, collection_eq_ok, mapM_eq_ok,
    storedTag_eq_ok] at read
  obtain ⟨_, at_step, place, step, _, at_role, role, named, _, at_tag, word, wrote, _, at_actors,
    actors, listed, _, at_documents, documents, opened, _, at_quota, count, quota, _, at_progress,
    lists, stored, progress, each, _, _, _, _, same⟩ := read
  obtain rfl := Except.ok.inj same
  exact ⟨⟨_, place, at_step, step, rfl⟩, ⟨_, at_role, named⟩, ⟨_, word, at_tag, wrote, rfl⟩,
    ⟨_, at_actors, listed⟩, ⟨_, at_documents, opened⟩, ⟨_, count, at_quota, quota, rfl⟩,
    ⟨_, lists, at_progress, stored, each⟩⟩

theorem read_eq_unbounded {v : Value} : Parts.read v = .error .unbounded ↔ v.InfiniteInNode := by
  -- Only the two whole numbers can end in this way, each after all that is read before it.
  simp only [Parts.read, bind_eq_error, complains_required.ne_unbounded, storedRole_ne_unbounded,
    complains_storedTag.ne_unbounded, complains_collection.ne_unbounded,
    complains_optionalCollection.ne_unbounded, complains_mapM_collection.ne_unbounded,
    wholeNumber_eq_unbounded, required_eq_ok, collection_eq_ok, false_or]
  constructor
  · rintro ⟨_, at_step, ⟨negative, rfl⟩ | ⟨place, step, _, at_role, role, named, _, at_tag, word,
      wrote, _, at_actors, actors, listed, _, at_documents, documents, opened, _, at_quota, rest⟩⟩
    · exact .step at_step
    · rcases rest with ⟨negative, rfl⟩ | ⟨_, _, _, _, _, _, _, _, _, _, _, _, nothing⟩
      · exact .quota ⟨_, place, at_step, step⟩ ⟨_, role, at_role, named⟩ ⟨_, word, at_tag, wrote⟩
          ⟨_, actors, at_actors, listed⟩ ⟨_, documents, at_documents, opened⟩ at_quota
      · cases nothing
  · rintro (at_step | ⟨⟨_, place, at_step, step⟩, ⟨_, role, at_role, named⟩,
      ⟨_, word, at_tag, wrote⟩, ⟨_, actors, at_actors, listed⟩,
      ⟨_, documents, at_documents, opened⟩, at_quota⟩)
    · exact ⟨_, at_step, Or.inl ⟨_, rfl⟩⟩
    · exact ⟨_, at_step, Or.inr ⟨place, step, _, at_role, role, named, _, at_tag, word, wrote, _,
        at_actors, actors, listed, _, at_documents, documents, opened, _, at_quota,
        Or.inl ⟨_, rfl⟩⟩⟩

section Opened
variable {n m : Node} {documents : List Value} {progress : List (List Value)}

theorem of_withOpened (ok : withOpened n documents progress = .ok m) :
    m.documents = documents ∧ m.progress = progress ∧ (∀ d ∈ documents, d.isIdentifier = true) ∧
      m = { n with opened := m.opened } := by
  unfold withOpened at ok
  split at ok
  · contradiction
  · rename_i same_length
    split at ok
    · rename_i identifiers
      obtain rfl := Except.ok.inj ok
      have aligned := not_not.1 same_length
      refine ⟨?_, ?_, List.all_eq_true.1 identifiers, rfl⟩
      · rw [Node.documents, ← List.map_uncurry_zip_eq_zipWith, List.map_map]
        exact List.map_fst_zip (Nat.le_of_eq aligned.symm)
      · rw [Node.progress, ← List.map_uncurry_zip_eq_zipWith, List.map_map]
        exact List.map_snd_zip (Nat.le_of_eq aligned)
    · contradiction

theorem internal_of_withOpened {e : ShapeError}
    (refused : withOpened n documents progress = .error e) :
    (LoadError.ofNodeShape e).IsInternal := by
  unfold withOpened at refused
  split at refused
  · obtain rfl := Except.error.inj refused
    exact LoadError.ofNodeShape_misaligned _ _ _
  · split at refused
    · contradiction
    · obtain rfl := Except.error.inj refused
      exact LoadError.node_isInternal _

end Opened

structure LoadedFrom (n : Node) (v : Value) : Prop where
  storable : n.IsStorable
  documents : ∃ w, v.field? "dids" = some w ∧ w.elements? = some n.documents
  progress : ∃ w lists, v.field? "working_documents" = some w ∧ w.elements? = some lists ∧
    List.Forall₂ (fun l acted => l.elements? = some acted) lists n.progress
  aligned : n.progress.length = n.documents.length

theorem loadedFrom_of_ofValue {v : Value} {n : Node} (loaded : ofValue v = .ok n) :
    n.LoadedFrom v := by
  obtain ⟨parts, read, made⟩ := bind_eq_ok.1 loaded
  have from_fields := Parts.readFrom (mapError_eq_ok.1 read)
  obtain ⟨documents, progress, identifiers, same⟩ := of_withOpened (mapError_eq_ok.1 made)
  obtain ⟨_, place, _, _, step⟩ := from_fields.step
  obtain ⟨_, _, _, _, tag⟩ := from_fields.tag
  obtain ⟨_, count, _, _, quota⟩ := from_fields.quota
  have unchanged : n.step = parts.step ∧ n.tag = parts.tag ∧ n.quota = parts.quota := by
    rw [same]
    exact ⟨rfl, rfl, rfl⟩
  obtain ⟨own_step, own_tag, own_quota⟩ := unchanged
  constructor
  case storable =>
    refine ⟨⟨place, own_step.trans step⟩, ⟨_, own_tag.trans tag⟩, ?_, documents ▸ identifiers⟩
    rw [own_quota, quota]
    exact isIntegral_int count
  case documents => exact documents ▸ from_fields.documents
  case progress => exact progress ▸ from_fields.progress
  case aligned => rw [Node.progress, Node.documents, List.length_map, List.length_map]

theorem ofValue_eq_unbounded {v : Value} : ofValue v = .error .unbounded ↔ v.InfiniteInNode := by
  rw [← read_eq_unbounded, ← LoadError.mapError_eq_unbounded LoadError.node_isInternal, ofValue,
    bind_eq_error, or_iff_left]
  rintro ⟨parts, _, refused⟩
  obtain ⟨e, misfit, same⟩ := mapError_eq_error.1 refused
  obtain ⟨text, internal⟩ := internal_of_withOpened misfit
  rw [same] at internal
  cases internal

theorem internal_of_ofValue {v : Value} {e : LoadError} (refused : ofValue v = .error e) :
    e = .unbounded ∨ e.ofNode.IsInternal := by
  rcases bind_eq_error.1 refused with reading | ⟨parts, _, making⟩
  · rcases LoadError.internal_of_mapError LoadError.node_isInternal reading with
      infinite | ⟨o, _, rfl⟩ | internal
    · exact Or.inl infinite
    · exact Or.inr (LoadError.automaton_isInternal _)
    · exact Or.inr internal.ofNode
  · obtain ⟨_, misfit, rfl⟩ := mapError_eq_error.1 making
    exact Or.inr (internal_of_withOpened misfit).ofNode

end Node

namespace Automaton

structure LoadedFrom (a : Automaton) (v : Value) : Prop where
  nodes : ∃ w items, v.field? "nodes" = some w ∧ w.elements? = some items ∧
    List.Forall₂ (fun item n => n.LoadedFrom item) items a.nodes
  index : ∃ w, v.field? "index" = some w ∧ w.wholeNumber = .ok a.index
  inside : a.index ≤ a.nodes.length

theorem of_at? {nodes : List Node} {index : Int} {a : Automaton} (ok : at? nodes index = .ok a) :
    a.nodes = nodes ∧ index = a.index ∧ a.index ≤ a.nodes.length := by
  unfold at? at ok
  split at ok
  · rename_i inside
    obtain rfl := Except.ok.inj ok
    exact ⟨rfl, (Int.toNat_of_nonneg inside.1).symm, Int.toNat_le.2 inside.2⟩
  · contradiction

theorem at?_eq_error {nodes : List Node} {index : Int} {e : ShapeError} :
    at? nodes index = .error e ↔
      ¬ (0 ≤ index ∧ index ≤ nodes.length) ∧ e = .cursorOutside (.int index) nodes.length := by
  unfold at?
  split <;> simp_all [eq_comm]

theorem cursorOutside_raisesIf (n : Int) (nodes : Nat) :
    (ShapeError.cursorOutside (.int n) nodes).failure.RaisesIf (isWithinLimit n)
      fun s => ∃ text, s = .plain .internal text :=
  Failure.raisesIf_ofMessage ((writesIf_written (.int n)).map _) .internal fun m _ => ⟨m, rfl⟩

theorem loadedFrom_of_ofValue {v : Value} {a : Automaton} (loaded : ofValue v = .ok a) :
    a.LoadedFrom v := by
  obtain ⟨items, listed, loaded⟩ := bind_eq_ok.1 loaded
  obtain ⟨nodes, read, loaded⟩ := bind_eq_ok.1 loaded
  have each := mapError_eq_ok.1 read
  obtain ⟨index, counted, placed⟩ := bind_eq_ok.1 loaded
  obtain ⟨w, stored, elements⟩ := bind_eq_ok.1 (mapError_eq_ok.1 listed)
  obtain ⟨u, written, whole⟩ := bind_eq_ok.1 (mapError_eq_ok.1 counted)
  obtain ⟨rfl, rfl, inside⟩ := of_at? (mapError_eq_ok.1 placed)
  refine ⟨⟨w, items, required_eq_ok.1 stored, collection_eq_ok.1 elements, ?_⟩,
    ⟨u, required_eq_ok.1 written, whole⟩, inside⟩
  exact (mapM_eq_ok.1 each).imp fun _ _ => Node.loadedFrom_of_ofValue

theorem ofValue_eq_unbounded {v : Value} :
    ofValue v = .error .unbounded ↔ v.InfiniteInAutomaton := by
  have never : ∀ {nodes : List Node} {index : Int},
      (at? nodes index).mapError LoadError.shape ≠ .error .unbounded := by
    intro nodes index outside
    obtain ⟨e, _, same⟩ := mapError_eq_error.1 outside
    cases same
  have nodes_read : ∀ {stored : List Value},
      (stored.mapM Node.ofValue).mapError LoadError.ofNode = .error .unbounded ↔
        stored.mapM Node.ofValue = .error .unbounded := by
    intro stored
    simp only [mapError_eq_error, LoadError.ofNode_eq_unbounded, exists_eq_right]
  simp only [ofValue, bind_eq_error, bind_eq_ok, mapError_eq_ok, nodes_read, mapM_eq_error,
    LoadError.mapError_eq_unbounded LoadError.automaton_isInternal,
    complains_required.ne_unbounded, complains_collection.ne_unbounded, never, required_eq_ok,
    collection_eq_ok, wholeNumber_eq_unbounded, Node.ofValue_eq_unbounded, false_or, and_false,
    exists_false, or_false, exists_and_right, exists_mapM_eq_ok]
  constructor
  · rintro ⟨items, ⟨w, there, listed⟩, ⟨front, item, ⟨back, rfl⟩, before, infinite⟩ |
      ⟨before, _, at_index, negative, rfl⟩⟩
    · exact .node there listed before infinite
    · exact .cursor there listed before at_index
  · rintro (⟨there, listed, before, infinite⟩ | ⟨there, listed, before, at_index⟩)
    · exact ⟨_, ⟨_, there, listed⟩, Or.inl ⟨_, _, ⟨_, rfl⟩, before, infinite⟩⟩
    · exact ⟨_, ⟨_, there, listed⟩, Or.inr ⟨before, _, at_index, _, rfl⟩⟩

theorem ofValue_of_cursorOutside {v : Value} {items : List Value} {n : Int}
    (h : v.CursorOutside items n) :
    ofValue v = .error (.shape (.cursorOutside (.int n) items.length)) := by
  obtain ⟨w, stored, listed⟩ := h.nodes
  obtain ⟨nodes, read⟩ := exists_mapM_eq_ok.2 h.before
  obtain ⟨u, there, whole⟩ := h.index
  have same : items.length = nodes.length := (mapM_eq_ok.1 read).length_eq
  have outside := h.outside
  rw [same] at outside ⊢
  have listing := bind_eq_ok.2 ⟨w, required_eq_ok.2 stored, collection_eq_ok.2 listed⟩
  have counting := bind_eq_ok.2 ⟨u, required_eq_ok.2 there, whole⟩
  exact bind_eq_error.2 (Or.inr ⟨items, mapError_eq_ok.2 listing,
    bind_eq_error.2 (Or.inr ⟨nodes, mapError_eq_ok.2 read,
      bind_eq_error.2 (Or.inr ⟨n, mapError_eq_ok.2 counting,
        mapError_eq_error.2 ⟨_, at?_eq_error.2 ⟨outside, rfl⟩, rfl⟩⟩)⟩)⟩)

theorem refusal_of_ofValue {v : Value} {e : LoadError} (refused : ofValue v = .error e) :
    e = .unbounded ∨ e.IsInternal ∨ ∃ items n, v.CursorOutside items n ∧
      e = .shape (.cursorOutside (.int n) items.length) := by
  rcases bind_eq_error.1 refused with listing | ⟨items, listed, rest⟩
  · rcases LoadError.internal_of_mapError LoadError.automaton_isInternal listing with
      infinite | ⟨_, unsaid, _⟩ | internal
    · exact Or.inl infinite
    · exact absurd unsaid (complains_required.bind fun _ => complains_collection).ne_unsaid
    · exact Or.inr (Or.inl internal)
  · rcases bind_eq_error.1 rest with reading | ⟨nodes, read, rest⟩
    · obtain ⟨f, misread, rfl⟩ := mapError_eq_error.1 reading
      obtain ⟨_, item, _, _, _, misread⟩ := mapM_eq_error.1 misread
      rcases Node.internal_of_ofValue misread with rfl | internal
      · exact Or.inl rfl
      · exact Or.inr (Or.inl internal)
    · rcases bind_eq_error.1 rest with counting | ⟨n, counted, placing⟩
      · rcases LoadError.internal_of_mapError LoadError.automaton_isInternal counting with
          infinite | ⟨_, unsaid, _⟩ | internal
        · exact Or.inl infinite
        · rcases bind_eq_error.1 unsaid with missing | ⟨_, _, unread⟩
          · exact absurd missing complains_required.ne_unsaid
          · exact absurd unread wholeNumber_ne_unsaid
        · exact Or.inr (Or.inl internal)
      · obtain ⟨_, misplaced, rfl⟩ := mapError_eq_error.1 placing
        obtain ⟨outside, rfl⟩ := at?_eq_error.1 misplaced
        obtain ⟨w, stored, elements⟩ := bind_eq_ok.1 (mapError_eq_ok.1 listed)
        obtain ⟨u, there, whole⟩ := bind_eq_ok.1 (mapError_eq_ok.1 counted)
        have each := mapError_eq_ok.1 read
        have same : items.length = nodes.length := (mapM_eq_ok.1 each).length_eq
        rw [← same] at outside ⊢
        exact Or.inr (Or.inr ⟨items, n, ⟨⟨w, required_eq_ok.1 stored, collection_eq_ok.1 elements⟩,
          exists_mapM_eq_ok.1 ⟨nodes, each⟩, ⟨u, required_eq_ok.1 there, whole⟩, outside⟩, rfl⟩)

/-- Loading ends with what was stored, or with an internal error, or at one of two numbers: an
infinite one, and one outside the nodes that is too long to be written. -/
theorem loading_ends (v : Value) :
    ((∃ a, ofValue v = .ok a ∧ a.LoadedFrom v) ∨
      (∃ e text, ofValue v = .error e ∧ e.failure = .signing (.plain .internal text)) ∨
      ofValue v = .error .unbounded ∨
      ∃ e, ofValue v = .error e ∧ e.failure = .overlong .written) ∧
    (ofValue v = .error .unbounded ↔ v.InfiniteInAutomaton) ∧
    ((∃ e, ofValue v = .error e ∧ e.failure = .overlong .written) ↔
      ∃ items n, v.CursorOutside items n ∧ isWithinLimit n = false) := by
  refine ⟨?_, ofValue_eq_unbounded, ?_⟩
  · cases loaded : ofValue v with
    | ok a => exact Or.inl ⟨a, rfl, loadedFrom_of_ofValue loaded⟩
    | error e =>
      rcases refusal_of_ofValue loaded with rfl | ⟨text, internal⟩ | ⟨items, n, _, rfl⟩
      · exact Or.inr (Or.inr (Or.inl rfl))
      · exact Or.inr (Or.inl ⟨e, text, rfl, internal⟩)
      · have raises := cursorOutside_raisesIf n items.length
        cases short : isWithinLimit n with
        | true =>
          obtain ⟨_, told, text, rfl⟩ := raises.told short
          exact Or.inr (Or.inl ⟨_, text, rfl, told⟩)
        | false => exact Or.inr (Or.inr (Or.inr ⟨_, rfl, raises.unsaid short⟩))
  · constructor
    · rintro ⟨e, refused, unsaid⟩
      rcases refusal_of_ofValue refused with rfl | ⟨text, internal⟩ | ⟨items, n, outside, rfl⟩
      · cases unsaid
      · cases internal.symm.trans unsaid
      · refine ⟨items, n, outside, ?_⟩
        rw [← Bool.not_eq_true]
        intro short
        obtain ⟨_, told, _⟩ := (cursorOutside_raisesIf n items.length).told short
        cases told.symm.trans unsaid
    · rintro ⟨items, n, outside, long⟩
      have unsaid := (cursorOutside_raisesIf n items.length).unsaid long
      exact ⟨_, ofValue_of_cursorOutside outside, unsaid⟩

def Escapes (v : Value) : Prop :=
  ¬ ((∃ a, ofValue v = .ok a) ∨
    ∃ e text, ofValue v = .error e ∧ e.failure = .signing (.plain .internal text))

end Automaton

def infiniteCursor : Value := .object [("nodes", .list []), ("index", .float (.infinite false))]

def overlongCursor : Value := .object [("nodes", .list []), ("index", .int leastOverlong)]

theorem infiniteCursor_escapes :
    Automaton.Escapes infiniteCursor ∧ Automaton.Escapes overlongCursor := by
  constructor
  · have escapes : Automaton.ofValue infiniteCursor = .error .unbounded := rfl
    rintro (⟨a, loaded⟩ | ⟨e, text, refused, internal⟩)
    · cases escapes.symm.trans loaded
    · obtain rfl := Except.error.inj (escapes.symm.trans refused)
      cases internal
  · have outside : overlongCursor.CursorOutside [] leastOverlong := by
      refine ⟨⟨_, rfl, rfl⟩, by simp, ⟨_, rfl, rfl⟩, ?_⟩
      rintro ⟨_, low⟩
      have some := leastOverlong_pos
      simp only [List.length_nil] at low
      omega
    have unsaid := (Automaton.cursorOutside_raisesIf leastOverlong 0).unsaid
      isWithinLimit_leastOverlong
    have escapes := Automaton.ofValue_of_cursorOutside outside
    rintro (⟨a, loaded⟩ | ⟨e, text, refused, internal⟩)
    · cases escapes.symm.trans loaded
    · obtain rfl := Except.error.inj (escapes.symm.trans refused)
      cases internal.symm.trans unsaid

end SignatureRouting
