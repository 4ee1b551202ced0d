import Mathlib.Data.List.Forall2

/-!
# Steps that can fail

A computation in several steps succeeds exactly when every step does, each with the results of
those in front of it. The statements are equivalences: read from the left they take a successful
computation apart, and from the right they put one together.
-/

namespace EntitySearch.Outcome

variable {ε α β : Type}

theorem bind_eq_ok_iff {x : Except ε α} {f : α → Except ε β} {b : β} :
    (x >>= f) = .ok b ↔ ∃ a, x = .ok a ∧ f a = .ok b := by
  cases x with
  | error fault =>
    constructor
    · intro h; cases h
    · rintro ⟨a, h, _⟩; cases h
  | ok a =>
    constructor
    · intro h; exact ⟨a, rfl, h⟩
    · rintro ⟨b, h, h'⟩; cases h; exact h'

/-- The first step that fails decides on the fault. -/
theorem bind_eq_error_iff {x : Except ε α} {f : α → Except ε β} {fault : ε} :
    (x >>= f) = .error fault ↔ x = .error fault ∨ ∃ a, x = .ok a ∧ f a = .error fault := by
  cases x with
  | error other =>
    constructor
    · intro h; cases h; exact Or.inl rfl
    · rintro (h | ⟨a, h, _⟩)
      · cases h; rfl
      · cases h
  | ok a =>
    constructor
    · intro h; exact Or.inr ⟨a, rfl, h⟩
    · rintro (h | ⟨b, h, h'⟩)
      · cases h
      · cases h; exact h'

theorem map_eq_ok_iff {x : Except ε α} {f : α → β} {b : β} :
    x.map f = .ok b ↔ ∃ a, x = .ok a ∧ f a = b := by
  cases x with
  | error fault =>
    constructor
    · intro h; cases h
    · rintro ⟨a, h, _⟩; cases h
  | ok a =>
    constructor
    · intro h; cases h; exact ⟨a, rfl, rfl⟩
    · rintro ⟨b, h, rfl⟩; cases h; rfl

/-- A check of every element of a list succeeds when each single check does. -/
theorem forM_eq_ok_iff {f : α → Except ε Unit} {list : List α} :
    list.forM f = .ok () ↔ ∀ a ∈ list, f a = .ok () := by
  induction list with
  | nil =>
    constructor
    · intro _ a mem; cases mem
    · intro _; rfl
  | cons a list ih =>
    rw [List.forM_eq_forM, List.forM_cons, bind_eq_ok_iff]
    rw [List.forM_eq_forM] at ih
    constructor
    · rintro ⟨_, first, others⟩ b mem
      rcases List.mem_cons.1 mem with rfl | mem
      · exact first
      · exact ih.1 others b mem
    · intro all
      exact ⟨(), all a List.mem_cons_self, ih.2 fun b mem => all b (List.mem_cons_of_mem _ mem)⟩

/-- A computation for every element of a list succeeds when each single one does. -/
theorem mapM_eq_ok_iff {f : α → Except ε β} {list : List α} {results : List β} :
    list.mapM f = .ok results ↔ List.Forall₂ (fun a b => f a = .ok b) list results := by
  induction list generalizing results with
  | nil =>
    rw [List.mapM_nil, List.forall₂_nil_left_iff]
    exact ⟨fun h => (Except.ok.inj h).symm, fun h => h ▸ rfl⟩
  | cons a list ih =>
    rw [List.mapM_cons, bind_eq_ok_iff]
    constructor
    · rintro ⟨b, first, h⟩
      obtain ⟨bs, others, h⟩ := bind_eq_ok_iff.1 h
      obtain rfl := Except.ok.inj h
      exact List.Forall₂.cons first (ih.1 others)
    · intro h
      cases h with
      | cons first others => exact ⟨_, first, bind_eq_ok_iff.2 ⟨_, ih.2 others, rfl⟩⟩

/-- Only the computations for the elements of the list matter. -/
theorem mapM_congr {f g : α → Except ε β} {list : List α} (same : ∀ a ∈ list, f a = g a) :
    list.mapM f = list.mapM g := by
  induction list with
  | nil => rfl
  | cons a list ih =>
    obtain ⟨first, others⟩ := List.forall_mem_cons.1 same
    rw [List.mapM_cons, List.mapM_cons, first, ih others]

/-- Computations that have the same results where the first one succeeds. -/
theorem mapM_eq_ok_of_imp {f g : α → Except ε β} {list : List α} {results : List β}
    (computed : list.mapM f = .ok results) (same : ∀ a ∈ list, ∀ b, f a = .ok b → g a = .ok b) :
    list.mapM g = .ok results := by
  rw [mapM_eq_ok_iff] at computed ⊢
  induction computed with
  | nil => exact .nil
  | cons first _ ih =>
    obtain ⟨here, others⟩ := List.forall_mem_cons.1 same
    exact .cons (here _ first) (ih others)

/-- Every element of a list has its result, and every result is that of an element. -/
theorem exists_of_mapM_eq_ok {f : α → Except ε β} {list : List α} {results : List β}
    (computed : list.mapM f = .ok results) :
    (∀ a ∈ list, ∃ b ∈ results, f a = .ok b) ∧ ∀ b ∈ results, ∃ a ∈ list, f a = .ok b := by
  have pairs := mapM_eq_ok_iff.1 computed
  clear computed
  induction pairs with
  | nil => exact ⟨fun a mem => (nomatch mem), fun b mem => (nomatch mem)⟩
  | @cons a b list results first _ ih =>
    constructor
    · refine List.forall_mem_cons.2 ⟨⟨b, List.mem_cons_self, first⟩, fun a mem => ?_⟩
      obtain ⟨b, mem, computed⟩ := ih.1 a mem
      exact ⟨b, List.mem_cons_of_mem _ mem, computed⟩
    · refine List.forall_mem_cons.2 ⟨⟨a, List.mem_cons_self, first⟩, fun b mem => ?_⟩
      obtain ⟨a, mem, computed⟩ := ih.2 b mem
      exact ⟨a, List.mem_cons_of_mem _ mem, computed⟩

/-- For a list with an element there is a result. -/
theorem ne_nil_of_mapM_eq_ok {f : α → Except ε β} {list : List α} {results : List β}
    (computed : list.mapM f = .ok results) (nonempty : list ≠ []) : results ≠ [] := by
  obtain ⟨a, mem⟩ := List.exists_mem_of_ne_nil list nonempty
  obtain ⟨b, listed, -⟩ := (exists_of_mapM_eq_ok computed).1 a mem
  exact List.ne_nil_of_mem listed

/-- A computation for every element of a list fails as the first single one that fails. -/
theorem mapM_eq_error_iff {f : α → Except ε β} {list : List α} {fault : ε} :
    list.mapM f = .error fault ↔ ∃ front a rest, list = front ++ a :: rest ∧
      (∀ b ∈ front, ∃ c, f b = .ok c) ∧ f a = .error fault := by
  induction list with
  | nil => simp [pure, Except.pure]
  | cons a list ih =>
    rw [List.mapM_cons, bind_eq_error_iff]
    constructor
    · -- it fails here, with nothing in front, or further on, with this element in front
      rintro (failed | ⟨b, first, failed⟩)
      · exact ⟨[], a, list, rfl, fun b mem => (nomatch mem), failed⟩
      · rcases bind_eq_error_iff.1 failed with failed | ⟨_, _, failed⟩
        · obtain ⟨front, c, rest, rfl, others, failed⟩ := ih.1 failed
          exact ⟨a :: front, c, rest, rfl, List.forall_mem_cons.2 ⟨⟨b, first⟩, others⟩, failed⟩
        · cases failed
    · rintro ⟨front, c, rest, split, others, failed⟩
      cases front with
      | nil =>
        obtain ⟨rfl, rfl⟩ := List.cons.inj split
        exact Or.inl failed
      | cons d front =>
        obtain ⟨rfl, rfl⟩ := List.cons.inj split
        obtain ⟨⟨b, first⟩, others⟩ := List.forall_mem_cons.1 others
        refine Or.inr ⟨b, first, bind_eq_error_iff.2 (Or.inl (ih.2 ?_))⟩
        exact ⟨front, c, rest, rfl, others, failed⟩

/-- A test of every element of a list that never fails leaves what passes it. -/
theorem filterM_eq_ok {test : α → Except ε Bool} {passes : α → Bool} {list : List α}
    (decided : ∀ a ∈ list, test a = .ok (passes a)) :
    list.filterM test = .ok (list.filter passes) := by
  -- the library collects in reverse what it keeps
  have collected (kept : List α) :
      list.filterAuxM test kept = .ok ((list.filter passes).reverse ++ kept) := by
    induction list generalizing kept with
    | nil => rfl
    | cons a list ih =>
      obtain ⟨first, others⟩ := List.forall_mem_cons.1 decided
      have step : (a :: list).filterAuxM test kept =
          list.filterAuxM test (bif passes a then a :: kept else kept) := by
        rw [List.filterAuxM, first]
        rfl
      rw [step, ih others, List.filter_cons]
      cases passes a with
      | false => rfl
      | true => rw [if_pos rfl, List.reverse_cons, List.append_assoc]; rfl
  rw [List.filterM, collected, List.append_nil]
  exact congrArg Except.ok (List.reverse_reverse _)

/-- A computation has an error exactly when it does not succeed. -/
theorem exists_error_iff {x : Except ε α} : (∃ fault, x = .error fault) ↔ ¬ ∃ a, x = .ok a := by
  cases x with
  | error fault => simp
  | ok a => simp

/-- **A computation for every element** has results when each single one has a result. -/
theorem exists_mapM_eq_ok_iff {f : α → Except ε β} {list : List α} :
    (∃ results, list.mapM f = .ok results) ↔ ∀ a ∈ list, ∃ b, f a = .ok b := by
  constructor
  · rintro ⟨results, computed⟩ a mem
    obtain ⟨b, -, single⟩ := (exists_of_mapM_eq_ok computed).1 a mem
    exact ⟨b, single⟩
  · intro all
    by_contra failed
    obtain ⟨fault, failed⟩ := exists_error_iff.2 failed
    obtain ⟨front, a, rest, rfl, -, failed⟩ := mapM_eq_error_iff.1 failed
    obtain ⟨b, single⟩ := all a (List.mem_append_right front List.mem_cons_self)
    cases failed.symm.trans single

end EntitySearch.Outcome
