import CellMarshal.Proofs.Typing.Assignability
import CellMarshal.Value.Instance

/-!
# Instances follow assignability

Assignability compares declared types; whether a value may be stored in a slot is decided by another
recursion, over the value. The two agree: every value is an instance of the type that it shows
(`isInstanceOf_of_shown`), and an instance of one type is an instance of each type that takes it
(`isInstanceOf_of_accepts`).

The agreement ends at primitive slots. A primitive slot takes what its box declares, but not a
missing value, and an object stands for the value that it wraps: one that wraps a missing value,
directly or through further objects, fits each box and no primitive type. Main statement:
`instances_follow_assignability`.
-/

namespace CellMarshal

namespace Value

/-! ## Types in common -/

/-- The common type of some types is one of them, or the object type. -/
theorem commonType_mem_or (ts : List DeclType) : commonType ts ∈ ts ∨ commonType ts = .object := by
  rcases ts with _ | ⟨t, ts⟩
  · exact Or.inr rfl
  · rw [commonType]
    split
    · exact Or.inl List.mem_cons_self
    · exact Or.inr rfl

/-- Where the common type of some types is none that any object has, all of them are this type. -/
theorem eq_of_mem_of_commonType_ne {ts : List DeclType} {t : DeclType} (ht : t ∈ ts)
    (h : commonType ts ≠ .object) : t = commonType ts := by
  rcases ts with _ | ⟨u, us⟩
  · cases ht
  · rw [commonType] at h ⊢
    split at h
    · rename_i hall
      rw [if_pos hall]
      rcases List.mem_cons.1 ht with rfl | hm
      · rfl
      · exact eq_of_beq (List.all_eq_true.1 hall t hm)
    · exact absurd rfl h

/-- The types of some items are those that some of them show. -/
theorem mem_types_iff {t : DeclType} {items : List Value} :
    t ∈ types items ↔ ∃ v ∈ items, v.type? = some t := by
  rw [types_eq_filterMap, List.mem_filterMap]

/-- Every value but a missing one shows a type. -/
theorem exists_type? {v : Value} (h : v ≠ null) : ∃ t, v.type? = some t :=
  Option.ne_none_iff_exists'.1 fun hn => h (type?_eq_none_iff.1 hn)

/-- Where elements have a type in common, it is the one that each of them shows, missing values
apart. -/
theorem type?_eq_commonType {items : List Value} {v : Value} (hv : v ∈ items) (hnull : v ≠ .null)
    (h : commonType (types items) ≠ .object) : v.type? = some (commonType (types items)) := by
  obtain ⟨t, ht⟩ := exists_type? hnull
  rw [ht, eq_of_mem_of_commonType_ne (mem_types_iff.2 ⟨v, hv, ht⟩) h]

/-! ## The type that a value shows -/

/-- The types that values show are proper, and none of them is primitive: plain values show the
box. -/
theorem isProper_of_type? {v : Value} {t : DeclType} (h : v.type? = some t) :
    t.IsProper ∧ t.isPrimitive = false := by
  induction v using Value.induction generalizing t with
  | step v ih =>
    cases v with
    | array items =>
      cases h
      refine ⟨.array ?_, rfl⟩
      rcases commonType_mem_or (types items) with hmem | hobject
      · obtain ⟨v, hv, ht⟩ := mem_types_iff.1 hmem
        exact (ih v hv ht).1
      · rw [hobject]
        exact .plain (by simp)
    | null => cases h
    | _ =>
      cases h
      exact ⟨.plain (by simp), rfl⟩

/-- What elements have in common is never a primitive type. -/
theorem isPrimitive_commonType (items : List Value) :
    (commonType (types items)).isPrimitive = false := by
  rcases commonType_mem_or (types items) with hmem | hobject
  · obtain ⟨v, hv, ht⟩ := mem_types_iff.1 hmem
    exact (isProper_of_type? ht).2
  · rw [hobject]
    rfl

/-- Every value is an instance of the object type. -/
theorem isInstanceOf_of_isObject {v : Value} {t : DeclType} (h : t.isObject = true) :
    v.isInstanceOf t = true := by
  have hraw := DeclType.raw?_of_isObject h
  cases v with
  | null => simp [isInstanceOf_null, DeclType.isPrimitive, hraw, RawType.isPrimitive]
  | array items => rw [isInstanceOf_array_of_raw hraw, h]
  | object o => exact isInstanceOf_object_of_object hraw
  | _ =>
    rw [isInstanceOf_of_plain (by simp) (by simp) (by simp)]
    exact DeclType.accepts_of_isObject h (.plain (by simp))

/-- **Every value is an instance of the type that it shows.** -/
theorem isInstanceOf_of_shown {v : Value} {t : DeclType} (h : v.type? = some t) :
    v.isInstanceOf t = true := by
  induction v using Value.induction generalizing t with
  | step v ih =>
    cases v with
    | array items =>
      cases h
      rw [isInstanceOf_array, allInstancesOf_iff]
      intro w hw
      by_cases hobject : commonType (types items) = .object
      · rw [hobject]
        exact isInstanceOf_of_isObject rfl
      · by_cases hnull : w = null
        · rw [hnull, isInstanceOf_null, isPrimitive_commonType]
          rfl
        · exact ih w hw (type?_eq_commonType hw hnull hobject)
    | object o =>
      cases h
      rw [isInstanceOf_object_of_named rfl]
      simp [ClassId.isInstanceOf]
    | null => cases h
    | _ =>
      rw [isInstanceOf_of_plain (by simp) (by simp) (by simp), fitsByType, h, Option.any_some]
      exact DeclType.accepts_self (isProper_of_type? h).1

/-! ## From slot to slot -/

/-- An object in which, after any number of objects that wrap one another, there is a missing
value. -/
inductive WrapsNull : Value → Prop
  | direct {o : Object} (h : o.content = some null) : WrapsNull (object o)
  | through {o : Object} {v : Value} (h : o.content = some v) (hv : WrapsNull v) :
      WrapsNull (object o)

/-- A class known by its name that takes a type is the class of this type. -/
theorem raw?_of_named_accepts {t s : DeclType} {name : String} (ht : t.raw? = some (.named name))
    (h : t.accepts s = true) : s.raw? = some (.named name) := by
  cases hs : s.raw? with
  | none =>
    obtain ⟨c, rfl⟩ := DeclType.raw?_eq_none_iff.1 hs
    have hobject := DeclType.isObject_of_accepts_array ht h
    rw [DeclType.raw?_of_isObject hobject] at ht
    cases ht
  | some raw =>
    rw [DeclType.accepts_raw_raw ht hs, RawType.accepts_iff_mem_lineage rfl (by simp)] at h
    rw [RawType.eq_of_named_mem_lineage h]

/-- What takes a class known by its name is this class or that of all objects. -/
theorem raw?_of_accepts_named {t s : DeclType} {name : String} (hs : s.raw? = some (.named name))
    (h : t.accepts s = true) : t.raw? = some (.named name) ∨ t.raw? = some .object := by
  cases ht : t.raw? with
  | none =>
    obtain ⟨c, rfl⟩ := DeclType.raw?_eq_none_iff.1 ht
    rw [DeclType.accepts_array_of_raw hs] at h
    cases h
  | some raw =>
    rw [DeclType.accepts_raw_raw ht hs] at h
    rcases RawType.eq_of_accepts_named h with rfl | rfl
    · exact Or.inl rfl
    · exact Or.inr rfl

/-- What fits by the type that it shows fits each slot that takes one that it fits. -/
theorem fitsByType_of_accepts {v : Value} {s t : DeclType} (hs : v.fitsByType s = true)
    (hts : t.accepts s = true) : v.fitsByType t = true := by
  obtain ⟨u, hu, hsu⟩ := (Option.any_eq_true _ _).1 hs
  rw [fitsByType, hu, Option.any_some]
  exact DeclType.accepts_trans (isProper_of_type? hu).1 hts hsu

section Slots

variable {s t : DeclType}

/-- An array goes from slot to slot by its elements, given that they do. -/
theorem isInstanceOf_array_of_accepts {items : List Value}
    (hitems : ∀ v ∈ items, v ≠ null → ∀ c d : DeclType, d.isPrimitive = false →
      v.isInstanceOf c = true → d.accepts c = true → v.isInstanceOf d = true)
    (hs : (array items).isInstanceOf s = true) (hts : t.accepts s = true) :
    (array items).isInstanceOf t = true := by
  cases hsraw : s.raw? with
  | some raw =>
    rw [isInstanceOf_array_of_raw hsraw] at hs
    exact isInstanceOf_of_isObject (DeclType.isObject_of_accepts_object hs hts)
  | none =>
    obtain ⟨c, rfl⟩ := DeclType.raw?_eq_none_iff.1 hsraw
    cases htraw : t.raw? with
    | some raw => exact isInstanceOf_of_isObject (DeclType.isObject_of_accepts_array htraw hts)
    | none =>
      obtain ⟨d, rfl⟩ := DeclType.raw?_eq_none_iff.1 htraw
      by_cases hp : d.isPrimitive = true ∨ c.isPrimitive = true
      · rw [DeclType.accepts_array_of_primitive hp] at hts
        rwa [eq_of_beq hts]
      · simp only [not_or, Bool.not_eq_true] at hp
        rw [DeclType.accepts_array_of_not_primitive hp.1 hp.2] at hts
        rw [isInstanceOf_array, allInstancesOf_iff] at hs ⊢
        intro v hv
        by_cases hnull : v = null
        · rw [hnull, isInstanceOf_null, hp.1]
          rfl
        · exact hitems v hv hnull c d hp.1 (hs v hv) hts

/-- An object goes from slot to slot by its class, or as the value that it wraps does. -/
theorem isInstanceOf_object_of_accepts {o : Object}
    (hcontent : ∀ v, o.content = some v → v.isInstanceOf s = true → v.isInstanceOf t = true)
    (hs : (object o).isInstanceOf s = true) (hts : t.accepts s = true) :
    (object o).isInstanceOf t = true := by
  by_cases hsobject : s.raw? = some .object
  · refine isInstanceOf_of_isObject (DeclType.isObject_of_accepts_object ?_ hts)
    simpa [DeclType.isObject, DeclType.isOf] using hsobject
  by_cases hsnamed : ∃ name, s.raw? = some (.named name)
  · obtain ⟨name, hname⟩ := hsnamed
    rw [isInstanceOf_object_of_named hname] at hs
    rcases raw?_of_accepts_named hname hts with ht | ht
    · rwa [isInstanceOf_object_of_named ht]
    · exact isInstanceOf_object_of_object ht
  by_cases htobject : t.raw? = some .object
  · exact isInstanceOf_object_of_object htobject
  -- neither slot is of a class that the object could show, so the wrapped value decides both
  have hnamed : ∀ name, s.raw? ≠ some (.named name) := fun name h => hsnamed ⟨name, h⟩
  have htnamed : ∀ name, t.raw? ≠ some (.named name) := fun name h =>
    hnamed name (raw?_of_named_accepts h hts)
  rw [isInstanceOf_object hsobject hnamed] at hs
  rw [isInstanceOf_object htobject htnamed]
  obtain ⟨v, hv, hvs⟩ := (Option.any_eq_true _ _).1 hs
  exact (Option.any_eq_true _ _).2 ⟨v, hv, hcontent v hv hvs⟩

/-- **An instance of a type is an instance of each type that takes it**, unless a missing value is
wrapped in it and the slot is primitive. -/
theorem isInstanceOf_of_accepts {v : Value} (hnull : v ≠ null)
    (hwraps : v.WrapsNull → t.isPrimitive = false) (hs : v.isInstanceOf s = true)
    (hts : t.accepts s = true) : v.isInstanceOf t = true := by
  induction v using Value.induction generalizing s t with
  | step v ih =>
    cases v with
    | null => exact absurd rfl hnull
    | array items =>
      refine isInstanceOf_array_of_accepts ?_ hs hts
      exact fun v hv hv' c d hd hc hdc => ih v hv hv' (fun _ => hd) hc hdc
    | object o =>
      refine isInstanceOf_object_of_accepts ?_ hs hts
      intro v hv hvs
      by_cases hv' : v = null
      · rw [hv', isInstanceOf_null, hwraps (.direct (hv.trans (congrArg some hv')))]
        rfl
      · exact ih v (by simp [parts, hv]) hv' (fun h => hwraps (.through hv h)) hvs hts
    | _ =>
      rw [isInstanceOf_of_plain (by simp) (by simp) (by simp)] at hs ⊢
      exact fitsByType_of_accepts hs hts

end Slots

/-! ## The two relations together -/

/-- On proper types assignability is reflexive and transitive and does not depend on arguments;
every value but a missing one shows a type, is an instance of it, and is an instance of each type
that takes a type it is an instance of. The last holds of primitive types only where no missing
value is wrapped in the value, directly or through further objects. -/
theorem instances_follow_assignability {s t r : DeclType} (ht : t.IsProper) (hs : s.IsProper)
    (hr : r.IsProper) {v : Value} (hv : v ≠ null) :
    t.accepts t = true ∧
    (t.accepts s = true → s.accepts r = true → t.accepts r = true) ∧
    (t.erased.accepts s = t.accepts s ∧ t.accepts s.erased = t.accepts s ∧
      t.erased.accepts s.erased = t.accepts s) ∧
    (∃ u, v.type? = some u ∧ v.isInstanceOf u = true) ∧
    ((v.WrapsNull → t.isPrimitive = false) → v.isInstanceOf s = true → t.accepts s = true →
      v.isInstanceOf t = true) := by
  obtain ⟨u, hu⟩ := exists_type? hv
  exact ⟨DeclType.accepts_self ht, DeclType.accepts_trans hr,
    ⟨DeclType.erased_accepts ht hs, DeclType.accepts_erased hs,
      (DeclType.accepts_erased hs).trans (DeclType.erased_accepts ht hs)⟩,
    ⟨u, hu, isInstanceOf_of_shown hu⟩, isInstanceOf_of_accepts hv⟩

/-- An array of whole numbers with a gap, as it goes from a slot for arrays of their box to one for
arrays of any number. -/
theorem instances_follow_assignability_array :
    (array [.int 1, .null]).isInstanceOf (.array (.plain .number)) = true := by
  have hproper : (DeclType.array (.plain .number)).IsProper := .array (.plain (by decide))
  have hbox : (DeclType.array (.plain (.boxed .int))).IsProper := .array (.plain (by decide))
  have hv : array [.int 1, .null] ≠ null := by simp
  exact (instances_follow_assignability hproper hbox hproper hv).2.2.2.2 (fun _ => rfl)
    (by decide) (by decide)

/-- An object that wraps an object that wraps a missing value fits the box of a primitive type, and
not the primitive type, which takes its box. -/
theorem wrapped_twice_not_instance_of_primitive :
    let inner := Object.wrapping (.made 0) .null
    let v := object (Object.wrapping (.made 1) (object inner))
    (v ≠ null ∧ ∀ o, v = object o → o.content ≠ some .null) ∧
    v.isInstanceOf (.plain (.boxed .int)) = true ∧
    (DeclType.plain (.primitive .int)).accepts (.plain (.boxed .int)) = true ∧
    v.isInstanceOf (.plain (.primitive .int)) = false := by
  refine ⟨⟨by simp, ?_⟩, by decide, by decide, by decide⟩
  rintro o ⟨⟩
  simp [Object.wrapping]

end Value

end CellMarshal
