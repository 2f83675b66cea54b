import CellMarshal.Proofs.Arena.Parking
import CellMarshal.Proofs.Registry.Coherence
import CellMarshal.Registry.Read
import CellMarshal.Registry.Write

/-!
# Values come back from the arena

The converter for objects takes any value. An object is handed over as it is, and any other value in
an object that is made to wrap it, so nothing of the value is looked at on the way, and a grid need
not be able to carry it. The reference is followed by a converter of the same form, whichever the
registry picks: what the object stands for is checked against the slot and given as it is.

What was handed over stands under its handle for as long as the handle names anything, which is the
permanence of the arena. So an object has one handle for as long as it is held, and every wrapped
value has a handle that nothing had before and that nothing has afterwards.

Addresses are assumed to tell objects apart that exist together (`Value.HasOwnAddress`). Main
statements: `exists_reader?_reference`, `put_serveAll_of_holds` and `read_handed_over`.
-/

namespace CellMarshal

/-! ## What a value is handed over in -/

namespace Value

/-- The object that a value is handed over in: an object itself, and an object made to wrap it for
any other value. -/
def carrier (a : Arena) : Value → Object
  | object o => o
  | v => .wrapping (.parked a.next) v

/-- The object that a value is handed over in has its address for itself: no other object is held
there, and none at all where the object is a new one. -/
def HasOwnAddress (a : Arena) : Value → Prop
  | object o => a.Admits o
  | _ => ¬ a.HoldsIdentity (.parked a.next)

/-- Whether a value is an object. -/
def IsObject (v : Value) : Prop :=
  ∃ o, v = object o

variable {a : Arena} {v : Value}

/-- A value that is no object is handed over in a new object that wraps it. -/
theorem carrier_of_not_isObject (h : ¬ v.IsObject) :
    v.carrier a = .wrapping (.parked a.next) v := by
  cases v with
  | object o => exact absurd ⟨o, rfl⟩ h
  | _ => rfl

/-- Where a value is no object and has its address for itself, nothing is held there. -/
theorem hasOwnAddress_of_not_isObject (h : ¬ v.IsObject) (haddr : v.HasOwnAddress a) :
    ¬ a.HoldsIdentity (.parked a.next) := by
  cases v with
  | object o => exact absurd ⟨o, rfl⟩ h
  | _ => exact haddr

/-- A value that has its address for itself may be handed over. -/
theorem HasOwnAddress.admits (h : v.HasOwnAddress a) : a.Admits (v.carrier a) := by
  by_cases hv : v.IsObject
  · obtain ⟨o, rfl⟩ := hv
    exact h
  · intro l s hs hi
    rw [carrier_of_not_isObject hv] at hi
    exact absurd ⟨l, s, hs, hi⟩ (hasOwnAddress_of_not_isObject hv h)

/-- A value is what the object stands for that it is handed over in, unless it is an object that
wraps a value itself. -/
theorem unwrap_carrier (h : ∀ o, v = object o → o.content = none) :
    Reading.unwrap (v.carrier a) = v := by
  by_cases hv : v.IsObject
  · obtain ⟨o, rfl⟩ := hv
    simp [carrier, Reading.unwrap, h o rfl]
  · rw [carrier_of_not_isObject hv]
    rfl

end Value

/-! ## The arena -/

namespace Arena

variable {a : Arena} {o : Object} {h : Handle}

/-- An object that is handed over again while its handle is held has the same handle again. -/
theorem Consistent.put_serveAll_of_holds (ha : a.Consistent) (ho : a.get? h = some o)
    (later : List Request) (hheld : (a.serveAll later).2.holds h = true) :
    ((a.serveAll later).2.put o).1 = h := by
  obtain ⟨p, hp⟩ := holds_iff_get?.1 hheld
  have hsame : (a.serveAll later).2.get? h = some o := by
    rcases get?_serveAll (ha.lt_next_of_get? ho) later with hsame | hgone
    · exact hsame.trans ho
    · rw [hgone] at hp
      cases hp
  obtain ⟨s, hs, hso⟩ := Option.map_eq_some_iff.1 hsame
  have hhandle : (a.serveAll later).2.handleOf? o = some h :=
    (ha.serveAll later).handleOf?_eq_some_iff.2 ⟨s, hs, by rw [hso]⟩
  rw [put_of_held hhandle]

/-- A value that is no object is handed over under the next new handle, which nothing had before. -/
theorem Consistent.put_carrier (ha : a.Consistent) {v : Value} (hv : ¬ v.IsObject)
    (haddr : v.HasOwnAddress a) :
    (a.put (v.carrier a)).1 = a.next ∧ a.next < (a.put (v.carrier a)).2.next ∧
      a.holds a.next = false := by
  have hnew : a.handleOf? (v.carrier a) = none := by
    rw [ha.handleOf?_eq_none_iff, Value.carrier_of_not_isObject hv]
    exact Value.hasOwnAddress_of_not_isObject hv haddr
  rw [put_of_new hnew]
  exact ⟨rfl, Nat.lt_succ_self _, holds_eq_false_iff.2 ha.find?_next⟩

/-- What a handle names at a later point at which it is held is what it named before. -/
theorem Consistent.get_serveAll_of_holds (ha : a.Consistent) (ho : a.get? h = some o)
    (later : List Request) (hheld : (a.serveAll later).2.holds h = true) :
    (a.serveAll later).2.get h = .ok o := by
  rcases (ha.standsFor ho).object_or_gone later with hget | hgone
  · exact hget
  · obtain ⟨p, hp⟩ := holds_iff_get?.1 hheld
    rw [get?_eq_none_of_get hgone] at hp
    cases hp

end Arena

/-! ## The converters for references -/

namespace Registry

open Writing

variable {r : Registry} {a b : Arena} {k : Converter} {t declared : DeclType} {v : Value}
  {h : Handle} {o : Object}

/-- Converters for objects use references alone. -/
theorem kind_of_objectHandle (hs : k.form.supports k.kind = true) (hf : k.form = .objectHandle) :
    k.kind = .reference := by
  rw [hf] at hs
  exact eq_of_beq hs

/-- A reference for a slot of whatever type is followed, unless the slot takes references or cells
as they are. -/
theorem exists_reader?_reference (hr : ∀ c ∈ r.ranked, c.form.supports c.kind = true)
    (hk : k ∈ r.ranked) (hf : k.form = .objectHandle) (hvoid : t.isVoid = false)
    (hhandle : t.isHandle = false) (hcell : t.isCell = false) :
    ∃ c, r.reader? t .reference = some c ∧ c.form = .objectHandle ∧ c.kind = .reference := by
  have hkind := kind_of_objectHandle (hr k hk) hf
  have hproduces : k.produces t = true := by
    rw [Converter.produces_of_objectHandle hf, hvoid, hhandle, hcell]
    rfl
  have hsome : (r.reader? t .reference).isSome = true := by
    rw [reader?_eq_find?, List.find?_isSome]
    exact ⟨k, hk, by simp [Converter.reads, hkind, hproduces]⟩
  obtain ⟨c, hc⟩ := Option.isSome_iff_exists.1 hsome
  obtain ⟨hmem, hreads, hp⟩ := of_reader?_eq_some hc
  have hne : c.form ≠ .cell := by
    intro hform
    rw [Converter.produces_of_cell hform, hcell] at hp
    cases hp
  have hckind : c.kind = .reference := by
    rcases Converter.reads_iff.1 hreads with hform | hckind | ⟨hmissing, -⟩
    · exact absurd hform hne
    · exact hckind
    · cases hmissing
  refine ⟨c, hc, ?_, hckind⟩
  have hsupports := hr c hmem
  rw [hckind] at hsupports
  rcases ConverterForm.eq_of_supports_reference hsupports with hform | hform | hform
  · rw [Converter.produces_of_handle hform, hhandle] at hp
    cases hp
  · exact hform
  · exact absurd hform hne

/-- The converter for objects hands the object over that carries the value. -/
theorem writeWith_objectHandle (hf : k.form = .objectHandle) (hnull : v ≠ .null)
    (hhandle : ∀ h tag, v ≠ .handle h tag) :
    (r.writeWith k declared v).runOn a =
      (.ok (.reference (a.put (v.carrier a)).1 (v.carrier a).classId.name),
        (a.put (v.carrier a)).2) := by
  rw [writeWith_of_whole r k declared hnull (by simp [hf]), hf]
  cases v with
  | null => exact absurd rfl hnull
  | handle h tag => exact absurd rfl (hhandle h tag)
  | _ => rfl

/-- A converter for objects gives what a reference leads to where it fits the slot. -/
theorem readWith_reference (r : Registry) (t : DeclType) (tag : String)
    (hf : k.form = .objectHandle) (hkind : k.kind = .reference) (hget : a.get h = .ok o) :
    r.readWith a k t (.reference h tag) =
      if (Reading.unwrap o).isInstanceOf t then .ok (Reading.unwrap o)
      else .error (.unexpectedValue t.display (Reading.unwrap o)) := by
  simp only [readWith, Reading.readBy, Reading.readForm, Reading.readObject, Converter.reads, hf,
    hkind, Cell.isMissing, Cell.kind, hget]
  rfl

/-- So does the registry, which picks a converter for objects. -/
theorem read_reference (tag : String) (hr : ∀ c ∈ r.ranked, c.form.supports c.kind = true)
    (hk : k ∈ r.ranked) (hf : k.form = .objectHandle) (hget : a.get h = .ok o)
    (hvoid : t.isVoid = false) (hhandle : t.isHandle = false) (hcell : t.isCell = false) :
    r.read a t (.reference h tag) =
      if (Reading.unwrap o).isInstanceOf t then .ok (Reading.unwrap o)
      else .error (.unexpectedValue t.display (Reading.unwrap o)) := by
  obtain ⟨c, hc, hcf, hckind⟩ := exists_reader?_reference hr hk hf hvoid hhandle hcell
  have hfound : r.reader? t (Cell.reference h tag).kind = some c := hc
  rw [read_of_reader? hfound, readWith_reference r t tag hcf hckind hget]

/-- **Any value comes back from the arena**, in every registry that is reached by edits from no
converters or from the stock table and holds a converter for objects. Let the converter write a
value that is neither missing nor a reference nor an object that wraps another value. At every later
point at which the handle is held, the reference is read for a slot as this very value if the value
is an instance of the slot's type, and is a mismatch if not. An object has the same handle whenever
it is written while this is held. Any other value has a handle that nothing had before, and what is
written later in a new object has another one. -/
theorem read_handed_over (start : Registry.Draft) (hs : start = {} ∨ start = .ofStock)
    (edits : List Registry.Draft.Edit) (k : Converter)
    (hk : k ∈ (start.editAll edits).build.ranked) (hf : k.form = .objectHandle) (v : Value)
    (hnull : v ≠ .null) (hhandle : ∀ h tag, v ≠ .handle h tag)
    (hwraps : ∀ o, v = .object o → o.content = none) (a : Arena) (ha : a.Consistent)
    (haddr : v.HasOwnAddress a) (declared : DeclType) :
    let r := (start.editAll edits).build
    ∃ h tag b, (r.writeWith k declared v).runOn a = (.ok (.reference h tag), b) ∧
      b.holds h = true ∧
      (∀ later, (b.serveAll later).2.holds h = true → ∀ t : DeclType,
        t.isVoid = false → t.isHandle = false → t.isCell = false →
          let back : Except Failure Value :=
            if v.isInstanceOf t then .ok v else .error (.unexpectedValue t.display v)
          r.read (b.serveAll later).2 t (.reference h tag) = back ∧
            r.readWith (b.serveAll later).2 k t (.reference h tag) = back) ∧
      (v.IsObject → ∀ later, (b.serveAll later).2.holds h = true → ∀ declared',
        ((r.writeWith k declared' v).runOn (b.serveAll later).2).1 = .ok (.reference h tag)) ∧
      (¬ v.IsObject → a.holds h = false ∧ ∀ later w, w ≠ .null → (∀ h tag, w ≠ .handle h tag) →
        ¬ w.IsObject → w.HasOwnAddress (b.serveAll later).2 → ∀ declared', ∃ h' tag',
          ((r.writeWith k declared' w).runOn (b.serveAll later).2).1 = .ok (.reference h' tag') ∧
            h' ≠ h ∧ (b.serveAll later).2.holds h' = false) := by
  intro r
  have hsupports : ∀ c ∈ r.ranked, c.form.supports c.kind = true := fun c hc =>
    (Draft.isChecked_of_start hs edits).supports c (Draft.mem_ranked_build.1 hc)
  have hb : (a.put (v.carrier a)).2.Consistent := ha.put _
  obtain ⟨held, hget, -, hadmits⟩ := ha.exists_get?_put (v.carrier a)
  rw [hadmits haddr.admits] at hget
  refine ⟨_, _, _, writeWith_objectHandle hf hnull hhandle, Arena.holds_iff_get?.2 ⟨_, hget⟩,
    fun later hheld t hvoid hthandle hcell => ?_, fun hobject later hheld declared' => ?_,
    fun hplain => ⟨?_, fun later w hwnull hwhandle hwplain hwaddr declared' => ?_⟩⟩
  · have hlater := hb.get_serveAll_of_holds hget later hheld
    have hregistry := read_reference (v.carrier a).classId.name hsupports hk hf hlater hvoid
      hthandle hcell
    have hconverter := readWith_reference r t (v.carrier a).classId.name hf
      (kind_of_objectHandle (hsupports k hk) hf) hlater
    rw [Value.unwrap_carrier hwraps] at hregistry hconverter
    exact ⟨hregistry, hconverter⟩
  · obtain ⟨o, rfl⟩ := hobject
    rw [writeWith_objectHandle hf hnull hhandle]
    have hsame := hb.put_serveAll_of_holds hget later hheld
    rw [← hsame]
    rfl
  · obtain ⟨hhandle, -, hfree⟩ := ha.put_carrier hplain haddr
    rw [hhandle, hfree]
  · obtain ⟨hfirst, hnext, -⟩ := ha.put_carrier hplain haddr
    obtain ⟨hsecond, -, hfree⟩ := (hb.serveAll later).put_carrier hwplain hwaddr
    refine ⟨_, _, congrArg Prod.fst (writeWith_objectHandle hf hwnull hwhandle), ?_, ?_⟩
    · -- the counter has passed the first handle
      rw [hfirst, hsecond]
      exact Nat.ne_of_gt (Nat.lt_of_lt_of_le hnext (Arena.serveAll_next_le _ later))
    · rw [hsecond, hfree]

/-- A list of a map and no value, handed over in an object of its own: after other requests it
is read for a slot of lists, and is no text. -/
theorem read_handed_over_list :
    let r := (Registry.Draft.ofStock.editAll []).build
    let k : Converter := ⟨.objectHandle, .reference, -10⟩
    let v : Value := .list [.map [(.string "EUR", .boolean true)], .null]
    let curve : Object := { identity := .made 7, classId := { name := "Curve" }, content := none }
    let written := (r.writeWith k .object v).runOn {}
    let d := (written.2.serveAll [.put curve, .release 1]).2
    written.1 = .ok (.reference 1 "List") ∧ d.holds 1 = true ∧
      r.read d (.plain .list) (.reference 1 "List") = .ok v ∧
      r.read d (.plain .string) (.reference 1 "List") =
        .error (.typeMismatch "String" "List") := by
  intro r k v curve written d
  have hk : k ∈ r.ranked := Draft.mem_ranked_build.2 (by decide)
  have haddr : v.HasOwnAddress {} := by
    rintro ⟨h, s, hs, -⟩
    cases hs
  have hfirst : written.1 = .ok (.reference 1 "List") := rfl
  have hheld : d.holds 1 = true := rfl
  obtain ⟨h, tag, b, hwrite, -, hread, -⟩ := read_handed_over .ofStock (Or.inr rfl) [] k hk rfl v
    (by simp [v]) (by simp [v]) (by simp [v]) {} (Arena.consistent_empty .keep) haddr .object
  have hb : written.2 = b := congrArg Prod.snd hwrite
  have hcell : (.ok (.reference h tag) : Except Failure Cell) = .ok (.reference 1 "List") :=
    (congrArg Prod.fst hwrite).symm.trans hfirst
  cases hcell
  rw [← hb] at hread
  exact ⟨hfirst, hheld, (hread _ hheld (.plain .list) rfl rfl rfl).1,
    (hread _ hheld (.plain .string) rfl rfl rfl).1⟩

end Registry

end CellMarshal
