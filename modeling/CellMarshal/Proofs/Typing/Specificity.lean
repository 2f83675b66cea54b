import CellMarshal.Proofs.Typing.Assignability
import Mathlib

/-!
# Specificity and assignability

How specific a type is was settled class by class, and assignability knows nothing of it. With
arguments left out of account the two agree: what takes another type is no more specific than that
type, at every depth of arrays (`specificity_erased_le`). Arguments add to the specificity of a type
and play no part in what it takes, so a type may well be more specific than one that it takes, by
what its arguments add and no more (`specificity_add_le`). Main statement:
`specificityArgs_add_le`, which says so of whole lists of parameters.
-/

namespace CellMarshal

/-! ## Classes -/

namespace RawType

open DeclType (rawSpecificity)

variable {t s : RawType}

/-- No class adds more than two to the specificity. -/
theorem rawSpecificity_le_two (t : RawType) : rawSpecificity t ≤ 2 := by
  cases t <;> simp [rawSpecificity]

/-- The classes of less than the greatest specificity are taken by themselves and by the object
class alone. -/
theorem eq_or_eq_object_of_accepts (hs : rawSpecificity s < 2) (h : t.accepts s = true) :
    t = s ∨ t = object := by
  cases hp : t.isPrimitive with
  | true =>
    cases t with
    | primitive p =>
      rcases accepts_primitive_iff.1 h with rfl | rfl
      · exact Or.inl rfl
      · exact absurd (show 2 < 2 from hs) (Nat.lt_irrefl 2)
    | _ => cases hp
  | false =>
    have hmem := (accepts_iff_mem_lineage hp (ne_void_of_accepts h).1).1 h
    cases s <;> simp_all [lineage, rawSpecificity]

/-- **A class is no more specific than the classes that it takes.** -/
theorem rawSpecificity_le_of_accepts (h : t.accepts s = true) :
    rawSpecificity t ≤ rawSpecificity s := by
  by_cases hs : rawSpecificity s < 2
  · rcases eq_or_eq_object_of_accepts hs h with rfl | rfl
    · exact Nat.le_refl _
    · exact Nat.zero_le _
  · exact Nat.le_trans (rawSpecificity_le_two t) (Nat.not_lt.1 hs)

end RawType

/-! ## Declared types -/

namespace DeclType

variable {t s : DeclType}

/-- What its arguments add to the specificity of a type, those of the component at the bottom for an
array. -/
def argSpecificity : DeclType → Nat
  | plain _ => 0
  | array c => argSpecificity c
  | generic _ args => specificityArgs args

/-- A type is as specific as its erasure and its arguments together. -/
theorem specificity_eq (t : DeclType) :
    t.specificity = t.erased.specificity + t.argSpecificity := by
  induction t using erased.induct with
  | case1 s => rfl
  | case2 s args => rfl
  | case3 c ih =>
    show 2 + c.specificity = 2 + c.erased.specificity + c.argSpecificity
    rw [ih, Nat.add_assoc]

/-- Without its arguments a type is as specific as its class. -/
theorem specificity_erased_of_raw {raw : RawType} (h : t.raw? = some raw) :
    t.erased.specificity = rawSpecificity raw := by
  cases t <;> cases h <;> rfl

/-- A type that is no array takes arrays only if it is the object type, the least specific one. -/
theorem specificity_erased_le_of_raw {raw : RawType} (ht : t.raw? = some raw)
    (h : t.accepts s = true) : t.erased.specificity ≤ s.erased.specificity := by
  rw [specificity_erased_of_raw ht]
  cases hs : s.raw? with
  | some u =>
    rw [accepts_raw_raw ht hs] at h
    rw [specificity_erased_of_raw hs]
    exact RawType.rawSpecificity_le_of_accepts h
  | none =>
    obtain ⟨d, rfl⟩ := raw?_eq_none_iff.1 hs
    have hobject := raw?_of_isObject (isObject_of_accepts_array ht h)
    rw [ht, Option.some_inj] at hobject
    subst hobject
    exact Nat.zero_le _

/-- **Arguments apart, a type is no more specific than the types that it takes.** -/
theorem specificity_erased_le (h : t.accepts s = true) :
    t.erased.specificity ≤ s.erased.specificity := by
  induction t using erased.induct generalizing s with
  | case1 raw => exact specificity_erased_le_of_raw rfl h
  | case2 raw args => exact specificity_erased_le_of_raw rfl h
  | case3 c ih =>
    cases hs : s.raw? with
    | some u =>
      rw [accepts_array_of_raw hs] at h
      cases h
    | none =>
      obtain ⟨d, rfl⟩ := raw?_eq_none_iff.1 hs
      by_cases hp : c.isPrimitive = true ∨ d.isPrimitive = true
      · rw [accepts_array_of_primitive hp] at h
        cases eq_of_beq h
        exact Nat.le_refl _
      · simp only [not_or, Bool.not_eq_true] at hp
        rw [accepts_array_of_not_primitive hp.1 hp.2] at h
        exact Nat.add_le_add_left (ih h) 2

/-- A type is more specific than one that it takes by no more than what its arguments add. -/
theorem specificity_add_le (h : t.accepts s = true) :
    t.specificity + s.argSpecificity ≤ s.specificity + t.argSpecificity := by
  have herased := specificity_erased_le h
  have ht := specificity_eq t
  have hs := specificity_eq s
  omega

/-- **Parameters that take others one by one are more specific than these by no more than what their
arguments add.** -/
theorem specificityArgs_add_le {ts ss : List DeclType}
    (h : List.Forall₂ (fun t s => t.accepts s = true) ts ss) :
    specificityArgs ts + (ss.map argSpecificity).sum ≤
      specificityArgs ss + (ts.map argSpecificity).sum := by
  induction h with
  | nil => exact Nat.le_refl _
  | @cons t s ts ss hts _ ih =>
    have hone := specificity_add_le hts
    simp only [specificityArgs, List.map_cons, List.sum_cons]
    omega

end DeclType

end CellMarshal
