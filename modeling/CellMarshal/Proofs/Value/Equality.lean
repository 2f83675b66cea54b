import CellMarshal.Value.Equality
import Mathlib

/-!
# Equality is symmetric and transitive

Values are compared part by part, and numbers as numbers, so equality is not reflexive: not-a-number
differs from itself. It is symmetric and transitive all the same, which is what dropping repetitions
rests on. For floating-point numbers the library has this; cells and values follow part by part.

Main statements: the instances of `PartialEquivBEq` for `Cell` and `Value`, and
`distinct_of_allDifferent` and `allDifferent_distinct` (dropping repetitions leaves items alone that
differ from each other, and leaves no others).
-/

namespace CellMarshal

/-! ## Cells -/

namespace Cell

mutual

/-- Equality of cells is symmetric, in grids and bags part by part. -/
theorem same_symm (c d : Cell) (h : c.same d = true) : d.same c = true := by
  cases c <;> cases d
  case number.number x y => exact BEq.symm (show (x == y) = true from h)
  case grid.grid rows other => exact sameRows_symm rows other h
  case bag.bag items other => exact sameRow_symm items other h
  all_goals first | (cases h; done) | simp_all [same]

/-- Equality of rows is symmetric. -/
theorem sameRow_symm (r s : List Cell) (h : sameRow r s = true) : sameRow s r = true := by
  cases r <;> cases s
  case nil.nil => rfl
  case cons.cons c r d s =>
    rw [sameRow, Bool.and_eq_true] at h ⊢
    exact ⟨same_symm c d h.1, sameRow_symm r s h.2⟩
  all_goals cases h

/-- Equality of lists of rows is symmetric. -/
theorem sameRows_symm (rs ss : List (List Cell)) (h : sameRows rs ss = true) :
    sameRows ss rs = true := by
  cases rs <;> cases ss
  case nil.nil => rfl
  case cons.cons r rs s ss =>
    rw [sameRows, Bool.and_eq_true] at h ⊢
    exact ⟨sameRow_symm r s h.1, sameRows_symm rs ss h.2⟩
  all_goals cases h

end

mutual

/-- Equality of cells is transitive, in grids and bags part by part. -/
theorem same_trans (c d e : Cell) (h : c.same d = true) (h' : d.same e = true) :
    c.same e = true := by
  cases c <;> cases d <;> first | (cases h; done) | cases e <;> first | (cases h'; done) | skip
  case number.number.number x y z => exact BEq.trans (show (x == y) = true from h) h'
  case grid.grid.grid rows mid other => exact sameRows_trans rows mid other h h'
  case bag.bag.bag items mid other => exact sameRow_trans items mid other h h'
  all_goals simp_all [same]

/-- Equality of rows is transitive. -/
theorem sameRow_trans (r s t : List Cell) (h : sameRow r s = true) (h' : sameRow s t = true) :
    sameRow r t = true := by
  cases r <;> cases s <;> first | (cases h; done) | cases t <;> first | (cases h'; done) | skip
  case nil.nil.nil => rfl
  case cons.cons.cons c r d s e t =>
    rw [sameRow, Bool.and_eq_true] at h h' ⊢
    exact ⟨same_trans c d e h.1 h'.1, sameRow_trans r s t h.2 h'.2⟩

/-- Equality of lists of rows is transitive. -/
theorem sameRows_trans (rs ss ts : List (List Cell)) (h : sameRows rs ss = true)
    (h' : sameRows ss ts = true) : sameRows rs ts = true := by
  cases rs <;> cases ss <;> first | (cases h; done) | cases ts <;> first | (cases h'; done) | skip
  case nil.nil.nil => rfl
  case cons.cons.cons r rs s ss t ts =>
    rw [sameRows, Bool.and_eq_true] at h h' ⊢
    exact ⟨sameRow_trans r s t h.1 h'.1, sameRows_trans rs ss ts h.2 h'.2⟩

end

/-- Cells are equal symmetrically and transitively, though not all of them to themselves. -/
instance : PartialEquivBEq Cell where
  symm h := same_symm _ _ h
  trans h h' := same_trans _ _ _ h h'

end Cell

/-! ## Values -/

namespace Value

mutual

/-- Equality of values is symmetric, in containers part by part. -/
theorem same_symm (v w : Value) (h : v.same w = true) : w.same v = true := by
  cases v <;> cases w <;> first | (cases h; done) | skip
  case float.float x y => exact BEq.symm (show (x == y) = true from h)
  case double.double x y => exact BEq.symm (show (x == y) = true from h)
  case cell.cell c d => exact BEq.symm (show (c == d) = true from h)
  case list.list vs ws => exact sameItems_symm vs ws h
  case set.set vs ws => exact sameItems_symm vs ws h
  case array.array vs ws => exact sameItems_symm vs ws h
  case map.map es fs => exact sameEntries_symm es fs h
  case object.object o o' =>
    rw [same_object, beq_iff_eq] at h ⊢
    exact h.symm
  all_goals simp_all [same]

/-- Equality of lists of values is symmetric. -/
theorem sameItems_symm (vs ws : List Value) (h : sameItems vs ws = true) :
    sameItems ws vs = true := by
  cases vs <;> cases ws <;> first | (cases h; done) | skip
  case nil.nil => rfl
  case cons.cons v vs w ws =>
    rw [sameItems, Bool.and_eq_true] at h ⊢
    exact ⟨same_symm v w h.1, sameItems_symm vs ws h.2⟩

/-- Equality of lists of entries is symmetric. -/
theorem sameEntries_symm (es fs : List (Value × Value)) (h : sameEntries es fs = true) :
    sameEntries fs es = true := by
  cases es <;> cases fs <;> first | (cases h; done) | skip
  case nil.nil => rfl
  case cons.cons e es f fs =>
    obtain ⟨k, v⟩ := e
    obtain ⟨l, w⟩ := f
    rw [sameEntries, Bool.and_eq_true, Bool.and_eq_true] at h ⊢
    exact ⟨⟨same_symm k l h.1.1, same_symm v w h.1.2⟩, sameEntries_symm es fs h.2⟩

end

mutual

/-- Equality of values is transitive, in containers part by part. -/
theorem same_trans (u v w : Value) (h : u.same v = true) (h' : v.same w = true) :
    u.same w = true := by
  cases u <;> cases v <;> first | (cases h; done) | cases w <;> first | (cases h'; done) | skip
  case float.float.float x y z => exact BEq.trans (show (x == y) = true from h) h'
  case double.double.double x y z => exact BEq.trans (show (x == y) = true from h) h'
  case cell.cell.cell c d e => exact BEq.trans (show (c == d) = true from h) h'
  case list.list.list us vs ws => exact sameItems_trans us vs ws h h'
  case set.set.set us vs ws => exact sameItems_trans us vs ws h h'
  case array.array.array us vs ws => exact sameItems_trans us vs ws h h'
  case map.map.map ds es fs => exact sameEntries_trans ds es fs h h'
  case object.object.object o o' o'' =>
    rw [same_object, beq_iff_eq] at h h' ⊢
    exact h.trans h'
  all_goals simp_all [same]
termination_by structural u

/-- Equality of lists of values is transitive. -/
theorem sameItems_trans (us vs ws : List Value) (h : sameItems us vs = true)
    (h' : sameItems vs ws = true) : sameItems us ws = true := by
  cases us <;> cases vs <;> first | (cases h; done) | cases ws <;> first | (cases h'; done) | skip
  case nil.nil.nil => rfl
  case cons.cons.cons u us v vs w ws =>
    rw [sameItems, Bool.and_eq_true] at h h' ⊢
    exact ⟨same_trans u v w h.1 h'.1, sameItems_trans us vs ws h.2 h'.2⟩
termination_by structural us

/-- Equality of lists of entries is transitive. -/
theorem sameEntries_trans (ds es fs : List (Value × Value)) (h : sameEntries ds es = true)
    (h' : sameEntries es fs = true) : sameEntries ds fs = true := by
  cases ds <;> cases es <;> first | (cases h; done) | cases fs <;> first | (cases h'; done) | skip
  case nil.nil.nil => rfl
  case cons.cons.cons d ds e es f fs =>
    obtain ⟨j, u⟩ := d
    obtain ⟨k, v⟩ := e
    obtain ⟨l, w⟩ := f
    rw [sameEntries, Bool.and_eq_true, Bool.and_eq_true] at h h' ⊢
    exact ⟨⟨same_trans j k l h.1.1 h'.1.1, same_trans u v w h.1.2 h'.1.2⟩,
      sameEntries_trans ds es fs h.2 h'.2⟩
termination_by structural ds

end

/-- Values are equal symmetrically and transitively, though not all of them to themselves. -/
instance : PartialEquivBEq Value where
  symm h := same_symm _ _ h
  trans h h' := same_trans _ _ _ h h'

/-- Lists of values are equal where they are item by item. -/
theorem sameItems_iff {vs ws : List Value} :
    sameItems vs ws = true ↔ List.Forall₂ (fun v w => v.same w = true) vs ws := by
  constructor
  · intro h
    induction vs generalizing ws with
    | nil =>
      cases ws
      · exact .nil
      · cases h
    | cons v vs ih =>
      cases ws with
      | nil => cases h
      | cons w ws =>
        rw [sameItems, Bool.and_eq_true] at h
        exact .cons h.1 (ih h.2)
  · intro h
    induction h with
    | nil => rfl
    | cons hv _ ih => rw [sameItems, hv, ih, Bool.and_self]

/-! ## Items that are different from each other -/

/-- No item is equal to an earlier one. -/
def AllDifferent (items : List Value) : Prop :=
  items.Pairwise fun v w => v.same w = false

/-- Nothing is dropped from items that are different from each other. -/
theorem distinct_of_allDifferent {items : List Value} (h : AllDifferent items) :
    distinct items = items := by
  induction items using List.reverseRecOn with
  | nil => rfl
  | append_singleton items v ih =>
    obtain ⟨hitems, -, hlast⟩ := List.pairwise_append.1 h
    have hnew : (items.any fun w => w == v) = false := by
      rw [List.any_eq_false]
      intro w hw
      rw [beq_eq_same, hlast w hw v (List.mem_singleton_self v)]
      exact Bool.false_ne_true
    rw [distinct_append_single, ih hitems, insertNew, hnew]
    rfl

/-- What is left when repetitions are dropped is different from each other. -/
theorem allDifferent_distinct (items : List Value) : AllDifferent (distinct items) := by
  induction items using List.reverseRecOn with
  | nil => exact List.Pairwise.nil
  | append_singleton items v ih =>
    rw [distinct_append_single, insertNew]
    split
    · exact ih
    · rename_i hnew
      refine List.pairwise_append.2 ⟨ih, List.pairwise_singleton _ v, fun w hw u hu => ?_⟩
      rw [List.mem_singleton.1 hu, Bool.eq_false_iff]
      exact fun hsame => hnew (List.any_eq_true.2 ⟨w, hw, hsame⟩)

/-- Items that are equal to different items one by one are different themselves. -/
theorem AllDifferent.of_sameItems {vs ws : List Value} (h : AllDifferent vs)
    (hs : sameItems vs ws = true) : AllDifferent ws := by
  rw [sameItems_iff] at hs
  rw [AllDifferent, List.pairwise_iff_getElem] at h ⊢
  intro i j hi hj hij
  have hi' : i < vs.length := hs.length_eq ▸ hi
  have hj' : j < vs.length := hs.length_eq ▸ hj
  rw [Bool.eq_false_iff]
  intro hsame
  have hback : vs[i].same vs[j] = true := by
    apply same_trans _ _ _ (hs.get hi' hi)
    apply same_trans _ _ _ hsame
    exact same_symm _ _ (hs.get hj' hj)
  rw [h i j hi' hj' hij] at hback
  cases hback

end Value

end CellMarshal
