import CellMarshal.Typing.DeclType

/-!
# Assignability is a preorder

Whether a slot of one declared type may hold what another type declares is decided class by class:
primitive types and their boxes may stand for each other, any other class takes what lies below it,
an array goes by its component, exactly where the component is primitive, and arguments play no
part. On proper types, which contain no void and have arguments on container classes only, this is
reflexive and transitive, and erasing a type makes no difference on either side.

Transitivity is shown for classes first (`RawType.accepts_trans`), where it comes down to one
lineage lying within another. Main statements: `accepts_self`, `accepts_trans`, `erased_accepts` and
`accepts_erased`.
-/

namespace CellMarshal

/-! ## Classes -/

namespace RawType

variable {t s r : RawType}

/-- Every class but void takes its own values. -/
theorem accepts_self (h : t ≠ void) : t.accepts t = true := by
  cases hp : t.isPrimitive with
  | true =>
    cases t with
    | primitive p => exact accepts_primitive_iff.2 (Or.inl rfl)
    | _ => cases hp
  | false => exact (accepts_iff_mem_lineage hp h).2 (mem_lineage_self t)

/-- No slot takes what returns nothing, so what is taken stands for some value. -/
theorem ne_void_of_accepts (h : t.accepts s = true) : t ≠ void ∧ s ≠ void := by
  constructor
  · rintro rfl
    cases h
  · rintro rfl
    cases t <;> simp_all [accepts, lineage]

/-- The object class takes every value. -/
theorem object_accepts (h : s ≠ void) : object.accepts s = true :=
  (accepts_iff_mem_lineage rfl (by simp)).2 (object_mem_lineage h)

/-- What takes every object is the object class alone. -/
theorem eq_object_of_accepts (h : t.accepts object = true) : t = object := by
  cases t <;> simp_all [accepts, lineage]

/-- A class known by its name is below itself and the object class alone. -/
theorem eq_of_accepts_named {name : String} (h : t.accepts (named name) = true) :
    t = named name ∨ t = object := by
  cases t <;> simp_all [accepts, lineage]

/-- Nothing but itself is below a class known by its name. -/
theorem eq_of_named_mem_lineage {name : String} (h : named name ∈ s.lineage) : s = named name := by
  cases s with
  | primitive p => cases p <;> simp_all [lineage, boxLineage, Primitive.isNumeric]
  | boxed p => cases p <;> simp_all [lineage, boxLineage, Primitive.isNumeric]
  | _ => simp_all [lineage]

/-- The lineage of a supertype is part of the lineage. -/
theorem mem_lineage_trans (hts : t ∈ s.lineage) (hsr : s ∈ r.lineage) : t ∈ r.lineage := by
  cases r with
  | primitive p => cases p <;> grind [lineage, boxLineage, Primitive.isNumeric]
  | boxed p => cases p <;> grind [lineage, boxLineage, Primitive.isNumeric]
  | _ => grind [lineage]

/-- A primitive type has what is above its box above itself. -/
theorem mem_lineage_boxed {p : Primitive} (ht : t.isPrimitive = false) :
    t ∈ (primitive p).lineage ↔ t ∈ (boxed p).lineage := by
  show t ∈ primitive p :: boxLineage p ↔ t ∈ boxLineage p
  rw [List.mem_cons]
  refine ⟨fun h => h.resolve_left ?_, Or.inr⟩
  rintro rfl
  cases ht

/-- Only a primitive type and its box have the box on their lineage. -/
theorem eq_of_boxed_mem_lineage {p : Primitive} (h : boxed p ∈ r.lineage) :
    r = primitive p ∨ r = boxed p := by
  cases r with
  | primitive q => cases q <;> simp_all [lineage, boxLineage, Primitive.isNumeric]
  | boxed q => cases q <;> simp_all [lineage, boxLineage, Primitive.isNumeric]
  | _ => simp [lineage] at h

/-- **Assignability of classes is transitive.** -/
theorem accepts_trans (hts : t.accepts s = true) (hsr : s.accepts r = true) :
    t.accepts r = true := by
  obtain ⟨htv, hsv⟩ := ne_void_of_accepts hts
  cases t with
  | primitive p =>
    rw [accepts_primitive_iff] at hts ⊢
    rcases hts with rfl | rfl
    · exact accepts_primitive_iff.1 hsr
    · exact eq_of_boxed_mem_lineage ((accepts_iff_mem_lineage rfl (by simp)).1 hsr)
  | _ =>
    rw [accepts_iff_mem_lineage rfl htv] at hts ⊢
    cases s with
    | primitive p =>
      -- what a primitive slot takes has the same classes above it, primitive ones apart
      rcases accepts_primitive_iff.1 hsr with rfl | rfl
      · exact hts
      · exact (mem_lineage_boxed rfl).1 hts
    | _ => exact mem_lineage_trans hts ((accepts_iff_mem_lineage rfl hsv).1 hsr)

end RawType

/-! ## Declared types -/

namespace DeclType

/-- A type that contains no void and carries arguments on the container classes only. Nothing is
asked of the arguments, for assignability leaves them out of account. -/
inductive IsProper : DeclType → Prop
  | plain {s : RawType} (h : s ≠ .void) : IsProper (plain s)
  | array {c : DeclType} (h : IsProper c) : IsProper (array c)
  | generic {s : RawType} {args : List DeclType}
      (h : s = .list ∨ s = .set ∨ s = .collection ∨ s = .map) : IsProper (generic s args)

variable {t s r c d : DeclType} {raw : RawType}

/-- The class of a type without voids is not void. -/
theorem IsProper.raw_ne_void (h : t.IsProper) (hr : t.raw? = some raw) : raw ≠ .void := by
  cases h with
  | plain h =>
    cases hr
    exact h
  | array h => cases hr
  | generic h =>
    cases hr
    rintro rfl
    simp at h

/-- A primitive type is declared without arguments. -/
theorem IsProper.eq_plain_of_isPrimitive (h : t.IsProper) (hp : t.isPrimitive = true) :
    ∃ p, t = .plain (.primitive p) := by
  cases h with
  | @plain s _ =>
    cases s with
    | primitive p => exact ⟨p, rfl⟩
    | _ => cases hp
  | array h => cases hp
  | generic h => rcases h with rfl | rfl | rfl | rfl <;> cases hp

/-- Without its arguments a proper type is proper. -/
theorem IsProper.erased (h : t.IsProper) : t.erased.IsProper := by
  induction h with
  | plain h => exact .plain h
  | array _ ih => exact .array ih
  | generic h => exact .plain (by rcases h with rfl | rfl | rfl | rfl <;> simp)

/-- The class of a type that any object fits is the one above all others. -/
theorem raw?_of_isObject (h : t.isObject = true) : t.raw? = some .object := by
  simpa [isObject, isOf] using h

/-- Arguments do not concern whether a type is primitive. -/
theorem isPrimitive_erased (t : DeclType) : t.erased.isPrimitive = t.isPrimitive := by
  rw [isPrimitive, isPrimitive, raw?_erased]

/-- The object type takes every proper type, arrays included. -/
theorem accepts_of_isObject (ht : t.isObject = true) (hs : s.IsProper) : t.accepts s = true := by
  have htraw := raw?_of_isObject ht
  cases hraw : s.raw? with
  | none =>
    obtain ⟨c, rfl⟩ := raw?_eq_none_iff.1 hraw
    rw [accepts_raw_of_array htraw, ht]
  | some u =>
    rw [accepts_raw_raw htraw hraw]
    exact RawType.object_accepts (hs.raw_ne_void hraw)

/-- Arrays of types that are not primitive go by their components. -/
theorem accepts_array_of_not_primitive (hc : c.isPrimitive = false) (hd : d.isPrimitive = false) :
    (array c).accepts (array d) = c.accepts d := by
  rw [accepts_array_array, hc, hd]
  rfl

/-- Arrays of primitive types are exact. -/
theorem accepts_array_of_primitive (h : c.isPrimitive = true ∨ d.isPrimitive = true) :
    (array c).accepts (array d) = (c == d) := by
  have hor : (c.isPrimitive || d.isPrimitive) = true := by simpa using h
  rw [accepts_array_array, if_pos hor]

/-! ## Reflexivity and transitivity -/

/-- **A slot takes its own type.** -/
theorem accepts_self (h : t.IsProper) : t.accepts t = true := by
  induction h with
  | plain h =>
    rw [accepts_raw_raw rfl rfl]
    exact RawType.accepts_self h
  | @array c _ ih =>
    cases hc : c.isPrimitive with
    | true => rw [accepts_array_of_primitive (Or.inl hc), beq_self_eq_true]
    | false => rw [accepts_array_of_not_primitive hc hc, ih]
  | generic h =>
    rw [accepts_raw_raw rfl rfl]
    exact RawType.accepts_self (by rcases h with rfl | rfl | rfl | rfl <;> simp)

/-- A slot that is no array takes an array where it takes any object. -/
theorem isObject_of_accepts_array (hr : t.raw? = some raw) (h : t.accepts (array c) = true) :
    t.isObject = true := by
  rwa [accepts_raw_of_array hr] at h

/-- What takes the object type is of the object class. -/
theorem isObject_of_accepts_object (hs : s.isObject = true) (h : t.accepts s = true) :
    t.isObject = true := by
  have hsraw := raw?_of_isObject hs
  cases hraw : t.raw? with
  | none =>
    obtain ⟨c, rfl⟩ := raw?_eq_none_iff.1 hraw
    rw [accepts_array_of_raw hsraw] at h
    cases h
  | some u =>
    rw [accepts_raw_raw hraw hsraw] at h
    rw [isObject, isOf, hraw, RawType.eq_object_of_accepts h]
    rfl

/-- Transitivity below, for a type of some class: no array takes part. -/
theorem accepts_trans_of_raw (hr : r.raw? = some raw) (hts : t.accepts s = true)
    (hsr : s.accepts r = true) : t.accepts r = true := by
  cases hsraw : s.raw? with
  | none =>
    obtain ⟨d, rfl⟩ := raw?_eq_none_iff.1 hsraw
    rw [accepts_array_of_raw hr] at hsr
    cases hsr
  | some u =>
    cases htraw : t.raw? with
    | none =>
      obtain ⟨c, rfl⟩ := raw?_eq_none_iff.1 htraw
      rw [accepts_array_of_raw hsraw] at hts
      cases hts
    | some w =>
      rw [accepts_raw_raw htraw hsraw] at hts
      rw [accepts_raw_raw hsraw hr] at hsr
      rw [accepts_raw_raw htraw hr]
      exact RawType.accepts_trans hts hsr

/-- **Assignability is transitive.** -/
theorem accepts_trans (hr : r.IsProper) (hts : t.accepts s = true) (hsr : s.accepts r = true) :
    t.accepts r = true := by
  induction hr generalizing t s with
  | @array e _ ih =>
    cases hsraw : s.raw? with
    | some u =>
      -- a slot that is no array takes an array as any object
      have hs := isObject_of_accepts_array hsraw hsr
      have ht := isObject_of_accepts_object hs hts
      rwa [accepts_raw_of_array (raw?_of_isObject ht)]
    | none =>
      obtain ⟨d, rfl⟩ := raw?_eq_none_iff.1 hsraw
      cases htraw : t.raw? with
      | some u =>
        rwa [accepts_raw_of_array htraw, ← accepts_raw_of_array htraw]
      | none =>
        obtain ⟨c, rfl⟩ := raw?_eq_none_iff.1 htraw
        by_cases hcd : c.isPrimitive = true ∨ d.isPrimitive = true
        · rw [accepts_array_of_primitive hcd] at hts
          rwa [eq_of_beq hts]
        · by_cases hde : d.isPrimitive = true ∨ e.isPrimitive = true
          · rw [accepts_array_of_primitive hde] at hsr
            rwa [← eq_of_beq hsr]
          · simp only [not_or, Bool.not_eq_true] at hcd hde
            rw [accepts_array_of_not_primitive hcd.1 hcd.2] at hts
            rw [accepts_array_of_not_primitive hde.1 hde.2] at hsr
            rw [accepts_array_of_not_primitive hcd.1 hde.2]
            exact ih hts hsr
  | plain h => exact accepts_trans_of_raw rfl hts hsr
  | generic h => exact accepts_trans_of_raw rfl hts hsr

/-! ## Erasure -/

/-- A proper type takes its erasure. -/
theorem accepts_erased_self (h : t.IsProper) : t.accepts t.erased = true := by
  induction h with
  | @plain s h => exact accepts_self (.plain h)
  | @array c hc ih =>
    show (array c).accepts (array c.erased) = true
    cases hp : c.isPrimitive with
    | true =>
      obtain ⟨p, rfl⟩ := hc.eq_plain_of_isPrimitive hp
      exact accepts_self (.array hc)
    | false => rw [accepts_array_of_not_primitive hp ((isPrimitive_erased c).trans hp), ih]
  | @generic s args h =>
    rw [accepts_raw_raw rfl (raw?_erased _)]
    exact RawType.accepts_self (by rcases h with rfl | rfl | rfl | rfl <;> simp)

/-- The erasure of a proper type takes the type. -/
theorem erased_accepts_self (h : t.IsProper) : t.erased.accepts t = true := by
  induction h with
  | @plain s h => exact accepts_self (.plain h)
  | @array c hc ih =>
    show (array c.erased).accepts (array c) = true
    cases hp : c.isPrimitive with
    | true =>
      obtain ⟨p, rfl⟩ := hc.eq_plain_of_isPrimitive hp
      exact accepts_self (.array hc)
    | false => rw [accepts_array_of_not_primitive ((isPrimitive_erased c).trans hp) hp, ih]
  | @generic s args h =>
    rw [accepts_raw_raw (raw?_erased _) rfl]
    exact RawType.accepts_self (by rcases h with rfl | rfl | rfl | rfl <;> simp)

/-- **Arguments of a slot play no part in what it takes.** -/
theorem erased_accepts (ht : t.IsProper) (hs : s.IsProper) : t.erased.accepts s = t.accepts s :=
  Bool.eq_iff_iff.2
    ⟨accepts_trans hs (accepts_erased_self ht), accepts_trans hs (erased_accepts_self ht)⟩

/-- **Arguments of what a slot is given play no part either.** -/
theorem accepts_erased (hs : s.IsProper) : t.accepts s.erased = t.accepts s :=
  Bool.eq_iff_iff.2
    ⟨fun h => accepts_trans hs h (erased_accepts_self hs),
      fun h => accepts_trans hs.erased h (accepts_erased_self hs)⟩

end DeclType

end CellMarshal
