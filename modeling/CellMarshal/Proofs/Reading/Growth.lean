import CellMarshal.Proofs.Traversal
import CellMarshal.Proofs.Writing.HandOver
import CellMarshal.Registry.Read

/-!
# Reading in an arena that has grown

Reading looks at the arena in one place only, where it follows a reference. What can be read in an
arena can therefore be read in every arena that still has the objects of the first under their
handles (`Arena.Extends`), with the same result. Writing leaves such an arena behind, because it
does nothing but hand objects over. Main statements: `extends_of_write` and
`refines_read`.
-/

namespace CellMarshal

/-! ## Arenas that have grown -/

/-- Every object is still under its handle. -/
def Arena.Extends (a b : Arena) : Prop :=
  ∀ h o, a.get? h = some o → b.get? h = some o

/-- An arena extends itself. -/
theorem Arena.Extends.refl (a : Arena) : a.Extends a :=
  fun _ _ ho => ho

/-- What extends an extension extends the first arena. -/
theorem Arena.Extends.trans {a b c : Arena} (hab : a.Extends b) (hbc : b.Extends c) : a.Extends c :=
  fun h o ho => hbc h o (hab h o ho)

/-- A writing leaves a consistent arena with all the objects that were there. -/
theorem Registry.extends_of_write {r : Registry} {type : DeclType} {v : Value} {a b : Arena}
    {e : Except Failure Cell} (ha : a.Consistent) (hw : (r.write type v).runOn a = (e, b)) :
    b.Consistent ∧ a.Extends b := by
  obtain ⟨os, harena, -⟩ := r.handsOver_write type v a
  rw [hw] at harena
  have hb : b = (a.putAll os).2 := harena
  rw [hb]
  exact ⟨ha.putAll os, fun h o ho => ha.get?_putAll ho os⟩

/-! ## Results that stand -/

/-- Whatever the first computation results in, the second one does too. -/
def Refines {ε α : Type} (e e' : Except ε α) : Prop :=
  ∀ x, e = .ok x → e' = .ok x

namespace Refines

variable {ε α β : Type}

/-- A computation refines itself. -/
theorem refl (e : Except ε α) : Refines e e :=
  fun _ hx => hx

/-- Refinement is kept by mapping the result. -/
theorem map {e e' : Except ε α} (h : Refines e e') (f : α → β) :
    Refines (e.map f) (e'.map f) := by
  intro y hy
  obtain ⟨x, hx, rfl⟩ := map_eq_ok_iff.1 hy
  exact map_eq_ok_iff.2 ⟨x, h x hx, rfl⟩

/-- Refinement is kept by chains whose links refine one another. -/
theorem bind {e e' : Except ε α} {f g : α → Except ε β} (h : Refines e e')
    (hf : ∀ x, Refines (f x) (g x)) : Refines (e >>= f) (e' >>= g) := by
  intro y hy
  obtain ⟨x, hx, hy⟩ := bind_eq_ok_iff.1 hy
  exact bind_eq_ok_iff.2 ⟨x, h x hx, hf x y hy⟩

/-- Refinement is kept by traversals. -/
theorem mapM {f g : α → Except ε β} (h : ∀ x, Refines (f x) (g x)) (xs : List α) :
    Refines (xs.mapM f) (xs.mapM g) := by
  intro ys hys
  rw [mapM_eq_ok_iff] at hys ⊢
  exact hys.imp fun x y hy => h x y hy

end Refines

/-! ## Reading -/

namespace Reading

variable {a b : Arena} {f g : Inner}

/-- An element is read as before where the inner reading is refined. -/
theorem refines_readElement (h : ∀ t d, Refines (f t d) (g t d)) (elem : DeclType) (c : Cell) :
    Refines (readElement f elem c) (readElement g elem c) := by
  unfold readElement
  split
  · exact Refines.refl _
  · exact h elem c

/-- The elements of a sequence are read as before where the inner reading is refined. -/
theorem refines_readItems (h : ∀ t d, Refines (f t d) (g t d)) (target : DeclType) (c : Cell) :
    Refines (readItems f target c) (readItems g target c) := by
  cases c with
  | grid rows =>
    simp only [readItems]
    split
    · exact Refines.refl _
    · split
      · exact Refines.mapM (fun row => h _ _) rows
      · exact Refines.mapM (fun d => refines_readElement h _ d) rows.flatten
  | _ => exact Refines.refl _

/-- A row is read as before where the inner reading is refined. -/
theorem refines_readRow (h : ∀ t d, Refines (f t d) (g t d)) (row : List Cell) :
    Refines (readRow f row) (readRow g row) :=
  (Refines.mapM (fun d => refines_readElement h _ d) row).map _

/-- An open array is read as before where the inner reading is refined. -/
theorem refines_readOpenArray (h : ∀ t d, Refines (f t d) (g t d)) (c : Cell) :
    Refines (readOpenArray f c) (readOpenArray g c) := by
  cases c with
  | grid rows =>
    simp only [readOpenArray]
    split
    · exact Refines.refl _
    · split
      · exact refines_readRow h rows.flatten
      · exact (Refines.mapM (fun row => refines_readRow h row) rows).map _
  | _ => exact Refines.refl _

/-- An array is read as before where the inner reading is refined. -/
theorem refines_readArray (h : ∀ t d, Refines (f t d) (g t d)) (target : DeclType) (c : Cell) :
    Refines (readArray f target c) (readArray g target c) := by
  unfold readArray
  split
  · exact (refines_readItems h target c).map _
  · exact refines_readOpenArray h c

/-- An entry is read as before where the inner reading is refined. -/
theorem refines_readEntry (h : ∀ t d, Refines (f t d) (g t d)) (types : DeclType × DeclType)
    (row : List Cell) : Refines (readEntry f types row) (readEntry g types row) := by
  unfold readEntry
  split
  · apply Refines.bind (refines_readElement h _ _)
    intro key
    apply Refines.bind (refines_readElement h _ _)
    intro value
    exact Refines.refl _
  · exact Refines.refl _

/-- A map is read as before where the inner reading is refined. -/
theorem refines_readMap (h : ∀ t d, Refines (f t d) (g t d)) (target : DeclType) (c : Cell) :
    Refines (readMap f target c) (readMap g target c) := by
  cases c with
  | grid rows =>
    simp only [readMap]
    split
    · exact Refines.refl _
    · split
      · exact Refines.refl _
      · exact (Refines.mapM (fun row => refines_readEntry h _ row) rows).map _
  | _ => exact Refines.refl _

/-- A reference is followed to the same object. -/
theorem refines_readObject (hab : a.Extends b) (target : DeclType) (c : Cell) :
    Refines (readObject a target c) (readObject b target c) := by
  unfold readObject
  split
  · rename_i h tag
    have hget : Refines (a.get h) (b.get h) := by
      intro o ho
      unfold Arena.get at ho
      split at ho
      · rename_i o' ho'
        cases ho
        exact Arena.get_of_some (hab h o ho')
      · cases ho
    exact hget.bind fun o => Refines.refl _
  · exact Refines.refl _

/-- One converter reads in the larger arena what it reads in the smaller one, provided that the same
holds of the readings within the cell. -/
theorem refines_readBy (hab : a.Extends b) (h : ∀ t d, Refines (f t d) (g t d)) (k : Converter)
    (target : DeclType) (c : Cell) : Refines (readBy a f k target c) (readBy b g k target c) := by
  unfold readBy
  split
  · exact Refines.refl _
  · split
    · exact Refines.refl _
    · unfold readForm
      split
      case h_9 => exact (refines_readItems h target c).map _
      case h_10 => exact (refines_readItems h target c).map _
      case h_11 => exact refines_readMap h target c
      case h_12 => exact refines_readArray h target c
      case h_15 => exact refines_readObject hab target c
      all_goals exact Refines.refl _

end Reading

namespace Registry

variable {r : Registry} {a b : Arena}

/-- What is read with some bound is read with it in every extension of the arena, by induction on
the bound. -/
theorem refines_readWithin (hab : a.Extends b) (n : Nat) (target : DeclType) (c : Cell) :
    Refines (r.readWithin a n target c) (r.readWithin b n target c) := by
  induction n generalizing target c with
  | zero => exact Refines.refl _
  | succ n ih =>
    rw [readWithin_succ, readWithin_succ]
    exact (Refines.refl _).bind fun k => Reading.refines_readBy hab ih k target c

/-- **What is read in an arena is read in every arena that it has grown into.** -/
theorem refines_read (hab : a.Extends b) (target : DeclType) (c : Cell) :
    Refines (r.read a target c) (r.read b target c) :=
  refines_readWithin hab _ target c

end Registry

end CellMarshal
