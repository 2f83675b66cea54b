import Mathlib.Data.List.Forall2

/-!
# Computations that may fail, one after the other

What it means that a chain of computations succeeds: every link does. A traversal of a list succeeds
exactly where it does at every item, and its result has one entry for each of them. Where it fails,
some item did. Main statements: `exists_forall₂`, `bind_eq_ok_iff`, `map_eq_ok_iff`,
`mapM_eq_ok_iff`, `exists_of_mapM_eq_error`, `exists_mapM_append_eq_error` and `mapM_eq_some_iff`.
-/

namespace CellMarshal

variable {ε α β : Type}

/-! ## Lists in step -/

/-- Of two lists in step, every item of the one goes with one of the other. -/
theorem exists_of_mem_left {R : α → β → Prop} {xs : List α} {ys : List β}
    (h : List.Forall₂ R xs ys) {x : α} (hx : x ∈ xs) : ∃ y ∈ ys, R x y := by
  induction h with
  | nil => cases hx
  | cons head _ ih =>
    rcases List.mem_cons.1 hx with rfl | hx
    · exact ⟨_, List.mem_cons_self, head⟩
    · obtain ⟨y, hy, hR⟩ := ih hx
      exact ⟨y, List.mem_cons_of_mem _ hy, hR⟩

/-- Where every item goes with something, there is a list in step. -/
theorem exists_forall₂ {R : α → β → Prop} {xs : List α} (h : ∀ x ∈ xs, ∃ y, R x y) :
    ∃ ys, List.Forall₂ R xs ys := by
  induction xs with
  | nil => exact ⟨[], .nil⟩
  | cons x xs ih =>
    obtain ⟨y, hy⟩ := h x List.mem_cons_self
    obtain ⟨ys, hys⟩ := ih fun z hz => h z (List.mem_cons_of_mem _ hz)
    exact ⟨y :: ys, .cons hy hys⟩

/-! ## Failures with a cause -/

/-- A chain succeeds exactly if its first link does and the second one does on its result. -/
theorem bind_eq_ok_iff {e : Except ε α} {f : α → Except ε β} {y : β} :
    (e >>= f) = .ok y ↔ ∃ x, e = .ok x ∧ f x = .ok y := by
  cases e with
  | error c =>
    constructor
    · intro h
      cases h
    · rintro ⟨x, hx, -⟩
      cases hx
  | ok x =>
    constructor
    · intro h
      exact ⟨x, rfl, h⟩
    · rintro ⟨z, hz, h⟩
      cases hz
      exact h

/-- A mapped computation succeeds exactly with the image of a result. -/
theorem map_eq_ok_iff {e : Except ε α} {f : α → β} {y : β} :
    e.map f = .ok y ↔ ∃ x, e = .ok x ∧ f x = y := by
  cases e with
  | error c => simp [Except.map]
  | ok x => simp [Except.map]

/-- A traversal succeeds where it does at every item, with one result for each of them. -/
theorem mapM_eq_ok_iff {f : α → Except ε β} {xs : List α} {ys : List β} :
    xs.mapM f = .ok ys ↔ List.Forall₂ (fun x y => f x = .ok y) xs ys := by
  induction xs generalizing ys with
  | nil =>
    rw [List.mapM_nil, List.forall₂_nil_left_iff]
    constructor
    · intro h
      cases h
      rfl
    · rintro rfl
      rfl
  | cons x xs ih =>
    rw [List.mapM_cons, bind_eq_ok_iff, List.forall₂_cons_left_iff]
    constructor
    · rintro ⟨y, hy, h⟩
      obtain ⟨zs, hzs, h⟩ := bind_eq_ok_iff.1 h
      cases h
      exact ⟨y, zs, hy, ih.1 hzs, rfl⟩
    · rintro ⟨y, zs, hy, hzs, rfl⟩
      exact ⟨y, hy, bind_eq_ok_iff.2 ⟨zs, ih.2 hzs, rfl⟩⟩

/-- Every result of a traversal is that of some item. -/
theorem exists_of_mem_mapM {f : α → Except ε β} {xs : List α} {ys : List β} {y : β}
    (h : xs.mapM f = .ok ys) (hy : y ∈ ys) : ∃ x ∈ xs, f x = .ok y := by
  obtain ⟨x, hx, hf⟩ := exists_of_mem_left (mapM_eq_ok_iff.1 h).flip hy
  exact ⟨x, hx, hf⟩

/-- A chain fails exactly if its first link does or the second one does on its result. -/
theorem bind_eq_error_iff {e : Except ε α} {f : α → Except ε β} {c : ε} :
    (e >>= f) = .error c ↔ e = .error c ∨ ∃ x, e = .ok x ∧ f x = .error c := by
  cases e with
  | error d =>
    constructor
    · intro h
      cases h
      exact Or.inl rfl
    · rintro (h | ⟨x, hx, -⟩)
      · cases h
        rfl
      · cases hx
  | ok x =>
    constructor
    · intro h
      exact Or.inr ⟨x, rfl, h⟩
    · rintro (h | ⟨y, hy, h⟩)
      · cases h
      · cases hy
        exact h

/-- A mapped computation fails exactly as the computation does. -/
theorem map_eq_error_iff {e : Except ε α} {f : α → β} {c : ε} :
    e.map f = .error c ↔ e = .error c := by
  cases e <;> simp [Except.map]

/-- A traversal that fails does so at some item. -/
theorem exists_of_mapM_eq_error {f : α → Except ε β} {xs : List α} {c : ε}
    (h : xs.mapM f = .error c) : ∃ x ∈ xs, f x = .error c := by
  induction xs with
  | nil => cases h
  | cons x xs ih =>
    rw [List.mapM_cons] at h
    rcases bind_eq_error_iff.1 h with hx | ⟨y, -, h⟩
    · exact ⟨x, List.mem_cons_self, hx⟩
    · rcases bind_eq_error_iff.1 h with hxs | ⟨ys, -, h⟩
      · obtain ⟨z, hz, hf⟩ := ih hxs
        exact ⟨z, List.mem_cons_of_mem _ hz, hf⟩
      · cases h

/-- A traversal that meets a failing item fails there, or at an item before it. -/
theorem exists_mapM_append_eq_error {f : α → Except ε β} {x : α} {c : ε} (hx : f x = .error c)
    (before after : List α) :
    ∃ d, (before ++ x :: after).mapM f = .error d ∧ (d = c ∨ ∃ y ∈ before, f y = .error d) := by
  induction before with
  | nil =>
    refine ⟨c, ?_, Or.inl rfl⟩
    rw [List.nil_append, List.mapM_cons, hx]
    rfl
  | cons y ys ih =>
    rw [List.cons_append, List.mapM_cons]
    cases hy : f y with
    | error d => exact ⟨d, rfl, Or.inr ⟨y, List.mem_cons_self, hy⟩⟩
    | ok v =>
      obtain ⟨d, hd, h⟩ := ih
      refine ⟨d, bind_eq_error_iff.2 (Or.inr ⟨v, rfl, ?_⟩), ?_⟩
      · rw [hd]
        rfl
      · exact h.imp_right fun ⟨z, hz, hf⟩ => ⟨z, List.mem_cons_of_mem _ hz, hf⟩

/-! ## Failures without a cause -/

/-- A traversal without causes succeeds where it does at every item, with one result for each of
them. -/
theorem mapM_eq_some_iff {f : α → Option β} {xs : List α} {ys : List β} :
    xs.mapM f = some ys ↔ List.Forall₂ (fun x y => f x = some y) xs ys := by
  induction xs generalizing ys with
  | nil =>
    rw [List.mapM_nil, List.forall₂_nil_left_iff]
    constructor
    · intro h
      cases h
      rfl
    · rintro rfl
      rfl
  | cons x xs ih =>
    rw [List.mapM_cons, List.forall₂_cons_left_iff]
    constructor
    · intro h
      obtain ⟨y, hy, h⟩ := Option.bind_eq_some_iff.1 h
      obtain ⟨zs, hzs, h⟩ := Option.bind_eq_some_iff.1 h
      cases h
      exact ⟨y, zs, hy, ih.1 hzs, rfl⟩
    · rintro ⟨y, zs, hy, hzs, rfl⟩
      exact Option.bind_eq_some_iff.2 ⟨y, hy, Option.bind_eq_some_iff.2 ⟨zs, ih.2 hzs, rfl⟩⟩

/-- A traversal that succeeds does so at every item. -/
theorem exists_of_mapM_eq_some {f : α → Option β} {xs : List α} {ys : List β} {x : α}
    (h : xs.mapM f = some ys) (hx : x ∈ xs) : ∃ y, f x = some y := by
  obtain ⟨y, -, hy⟩ := exists_of_mem_left (mapM_eq_some_iff.1 h) hx
  exact ⟨y, hy⟩

end CellMarshal
