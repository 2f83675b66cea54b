import CellMarshal.Proofs.Registry.Coherence
import CellMarshal.Proofs.Registry.Levels
import Mathlib.Data.List.Pairwise

/-!
# The order of registration

Converters of one priority are tried in the order in which they were registered, so the order may
decide. It does not where all the converters that come into question are registered under one type
and use one kind of cell, for no two of those have the same priority in a draft that was checked.
That is so for a kind of cell in a slot whose type says by itself how its values are written, and
for a type and a kind of cell that is asked for and can be had. Main statements:
`find?_rank_of_same` (distinct priorities make up for the order), `valueType_eq_of_serves`,
`same_of_reads` and `resolve_of_reordered`.
-/

namespace CellMarshal

/-! ## Converters that compete -/

namespace Converter

variable {k k' : Converter} {t level : DeclType}

/-- A converter that is not for arrays serves no array. -/
theorem isArray_eq_false_of_serves (ha : k.form ≠ .array) (h : k.serves level = true) :
    level.isArray = false := by
  obtain ⟨s, hs, -⟩ := ConverterForm.valueType_of_ne_array ha
  rw [serves_of_ne_array ha, valueType, hs, beq_iff_eq] at h
  cases level with
  | array c => cases h
  | _ => rfl

/-- Converters that serve one level are registered under one type. -/
theorem valueType_eq_of_serves (h : k.serves level = true) (h' : k'.serves level = true) :
    k.valueType = k'.valueType := by
  by_cases ha : k.form = .array <;> by_cases ha' : k'.form = .array
  · rw [valueType, valueType, ha, ha']
  · rw [serves_of_array ha, isArray_eq_false_of_serves ha' h'] at h
    cases h
  · rw [serves_of_array ha', isArray_eq_false_of_serves ha h] at h'
    cases h'
  · rw [serves_of_ne_array ha, beq_iff_eq] at h
    rw [serves_of_ne_array ha', beq_iff_eq] at h'
    rw [← h, h']

/-- Of the forms for the values of one class none produces references, or values where there are to
be none. -/
theorem accepts_valueType_eq_false {f : ConverterForm} (hf : f.isPlain = true) {s : RawType}
    (ht : t.raw? = some s) (hs : s = .handle ∨ s = .void) : t.accepts f.valueType = false := by
  obtain ⟨u, hu, -, hprim, -⟩ :=
    ConverterForm.valueType_of_ne_array (ConverterForm.ne_array_of_isPlain hf)
  rw [hu, DeclType.accepts_raw_raw ht rfl]
  rcases hs with rfl | rfl
  · rw [Bool.eq_false_iff, Ne,
      RawType.accepts_iff_eq_box hprim (by simp) (by simp) (by simp) (by simp)]
    rintro rfl
    cases f <;> cases hf <;> cases hu
  · rfl

/-- No converter produces what is nothing. -/
theorem produces_eq_false_of_isVoid (ht : t.isVoid = true) : k.produces t = false := by
  have hraw : t.raw? = some .void := by simpa [DeclType.isVoid, DeclType.isOf] using ht
  rw [Bool.eq_false_iff]
  intro hp
  rcases produces_cases hp with ⟨-, h⟩ | ⟨-, h⟩ | ⟨-, h⟩ | ⟨-, h⟩ | ⟨hplain, h⟩
  · cases t <;> simp_all [DeclType.isArray, DeclType.isObject, DeclType.isOf, DeclType.raw?]
  · simp [DeclType.isHandle, DeclType.isOf, hraw] at h
  · simp [DeclType.isCell, DeclType.isOf, hraw] at h
  · simp [ht] at h
  · rw [valueType, accepts_valueType_eq_false hplain hraw (.inr rfl)] at h
    cases h

/-- References are produced by the form for references alone. -/
theorem form_eq_handle_of_produces (ht : t.isHandle = true) (hp : k.produces t = true) :
    k.form = .handle := by
  have hraw : t.raw? = some .handle := by simpa [DeclType.isHandle, DeclType.isOf] using ht
  rcases produces_cases hp with ⟨-, h⟩ | ⟨hf, -⟩ | ⟨-, h⟩ | ⟨-, h⟩ | ⟨hplain, h⟩
  · cases t <;> simp_all [DeclType.isArray, DeclType.isObject, DeclType.isOf, DeclType.raw?]
  · exact hf
  · simp [DeclType.isCell, DeclType.isOf, hraw] at h
  · simp [ht] at h
  · rw [valueType, accepts_valueType_eq_false hplain hraw (.inl rfl)] at h
    cases h

/-- Where a type says by itself how its values are written and is not that of cells, the converters
that produce values for it and read one kind of cell are registered under one type and use one kind
of cell. -/
theorem same_of_reads (ho : t.isOpen = false) (hc : t.isCell = false) {kind : CellKind}
    (hk : k.form.supports k.kind = true) (hk' : k'.form.supports k'.kind = true)
    (hr : k.reads kind = true ∧ k.produces t = true)
    (hr' : k'.reads kind = true ∧ k'.produces t = true) :
    k.valueType = k'.valueType ∧ k.kind = k'.kind := by
  cases hv : t.isVoid with
  | true =>
    rw [produces_eq_false_of_isVoid hv] at hr
    cases hr.2
  | false =>
    cases hh : t.isHandle with
    | true =>
      have hf := form_eq_handle_of_produces hh hr.2
      have hf' := form_eq_handle_of_produces hh hr'.2
      rw [hf] at hk
      rw [hf'] at hk'
      refine ⟨by rw [valueType, valueType, hf, hf'], ?_⟩
      rw [eq_of_beq hk, eq_of_beq hk']
    | false =>
      have ht : t.IsClosed := ⟨ho, hv, hh, hc⟩
      have hkind : k.kind = k'.kind :=
        (kind_eq_of_reads ht hr.2 hr.1).trans (kind_eq_of_reads ht hr'.2 hr'.1).symm
      exact ⟨valueType_eq_of_kind_eq ht hk hk' hr.2 hr'.2 hkind, hkind⟩

end Converter

namespace Registry

variable {cs ds : List Converter}

/-! ## Distinct priorities -/

/-- Two converters clash in either order. -/
theorem Draft.clashes_comm (c d : Converter) : Draft.clashes c d = Draft.clashes d c := by
  rw [Draft.clashes, Draft.clashes, BEq.comm (a := c.valueType), BEq.comm (a := c.kind),
    BEq.comm (a := c.priority)]

/-- In a checked draft a converter is known by its type, its kind and its priority. -/
theorem Draft.IsChecked.eq_of_same {b : Draft} (hb : b.IsChecked) {c d : Converter}
    (hc : c ∈ b.converters) (hd : d ∈ b.converters)
    (hsame : c.valueType = d.valueType ∧ c.kind = d.kind) (hp : c.priority = d.priority) :
    c = d := by
  have hsymm : Std.Symm fun c d : Converter => Draft.clashes c d = false :=
    ⟨fun c d h => by rw [Draft.clashes_comm, h]⟩
  apply Decidable.byContradiction
  intro hne
  have hclash : Draft.clashes c d = false := hb.noClash.forall hc hd hne
  simp [Draft.clashes, hsame, hp] at hclash

/-- **Distinct priorities make up for the order**: what is first in a ranking depends on which
converters were ranked alone, provided that no two of those that pass have the same priority. -/
theorem find?_rank_of_same {q : Converter → Bool} (hsame : ∀ c, c ∈ cs ↔ c ∈ ds)
    (hdistinct : ∀ c ∈ cs, ∀ d ∈ cs, q c = true → q d = true → c.priority = d.priority → c = d) :
    (rank cs).find? q = (rank ds).find? q := by
  rcases hc : (rank cs).find? q with _ | c <;> rcases hd : (rank ds).find? q with _ | d
  · rfl
  · have hforemost := isForemost_of_find?_rank hd
    have hq := find?_rank_eq_none_iff.1 hc d ((hsame d).2 hforemost.mem)
    rw [hforemost.passes] at hq
    cases hq
  · have hforemost := isForemost_of_find?_rank hc
    have hq := find?_rank_eq_none_iff.1 hd c ((hsame c).1 hforemost.mem)
    rw [hforemost.passes] at hq
    cases hq
  · have hcf := isForemost_of_find?_rank hc
    have hdf := isForemost_of_find?_rank hd
    have hmem : d ∈ cs := (hsame d).2 hdf.mem
    have hpriority : c.priority = d.priority :=
      Int32.le_antisymm (hdf.greatest c ((hsame c).1 hcf.mem) hcf.passes)
        (hcf.greatest d hmem hdf.passes)
    rw [hdistinct c hcf.mem d hmem hcf.passes hdf.passes hpriority]

/-! ## Drafts with the same converters -/

section reordered

variable {b b' : Draft} {t : DeclType} {kind : CellKind}

/-- Drafts of the same converters find the same one for a cell, unless the type is open or one of
cells. -/
theorem reader?_of_same (hb : b.IsChecked) (hsame : ∀ c, c ∈ b.converters ↔ c ∈ b'.converters)
    (ho : t.isOpen = false) (hc : t.isCell = false) :
    b.build.reader? t kind = b'.build.reader? t kind := by
  rw [reader?_eq_find?, reader?_eq_find?]
  refine find?_rank_of_same hsame fun c hcm d hdm hqc hqd hp => ?_
  rw [Bool.and_eq_true] at hqc hqd
  exact hb.eq_of_same hcm hdm
    (Converter.same_of_reads ho hc (hb.supports c hcm) (hb.supports d hdm) hqc hqd) hp

/-- A level has one converter of each kind and priority. -/
theorem server?_of_same (hb : b.IsChecked) (hsame : ∀ c, c ∈ b.converters ↔ c ∈ b'.converters)
    (level : DeclType) :
    b.build.server? (some kind) level = b'.build.server? (some kind) level := by
  refine find?_rank_of_same hsame fun c hcm d hdm hqc hqd hp => ?_
  rw [serves_and_ofHint_iff] at hqc hqd
  refine hb.eq_of_same hcm hdm ⟨Converter.valueType_eq_of_serves hqc.2 hqd.2, ?_⟩ hp
  rw [hqc.1 kind rfl, hqd.1 kind rfl]

/-- So a walk that keeps to a kind comes to the same converter, and where some level can honour the
kind there is no other walk. -/
theorem writer?_of_same (hb : b.IsChecked) (hsame : ∀ c, c ∈ b.converters ↔ c ∈ b'.converters)
    (h : Honours b.converters t kind) :
    b.build.writer? t (some kind) = b'.build.writer? t (some kind) := by
  have h' : Honours b'.converters t kind := by
    obtain ⟨level, hl, c, hc, hserves⟩ := h
    exact ⟨level, hl, c, (hsame c).1 hc, hserves⟩
  calc
    b.build.writer? t (some kind) = b.build.walk (some kind) t.lineage := writer?_of_honours h
    _ = b'.build.walk (some kind) t.lineage := by
      rw [walk, walk, funext (server?_of_same hb hsame)]
    _ = b'.build.writer? t (some kind) := (writer?_of_honours h').symm

end reordered

/-- **The order of registration does not decide** for a draft that is reached by edits, from no
converters or from the stock table, and any other draft with the same converters. The registries of
both resolve every kind of cell to the same converter, or fail both, for every type that says by
itself how its values are written and is not that of cells. And they have the same converter for a
type and a kind of cell that is asked for, provided that some converter of the kind serves some
level of the type. -/
theorem resolve_of_reordered (start : Draft) (hs : start = {} ∨ start = .ofStock)
    (edits : List Draft.Edit) (b' : Draft)
    (hsame : ∀ c, c ∈ (start.editAll edits).converters ↔ c ∈ b'.converters) :
    let b := start.editAll edits
    (∀ t kind, t.isOpen = false → t.isCell = false →
        b.build.resolveKind t kind = b'.build.resolveKind t kind) ∧
      ∀ t kind, Honours b.converters t kind →
        ∃ c, b.build.resolveFor t (some kind) = .ok c ∧
          b'.build.resolveFor t (some kind) = .ok c := by
  intro b
  have hb : b.IsChecked := Draft.isChecked_of_start hs edits
  refine ⟨fun t kind ho hc => ?_, fun t kind h => ?_⟩
  · rw [resolveKind, resolveKind, reader?_of_same hb hsame ho hc]
  · obtain ⟨c, hwriter, -⟩ := exists_writer?_of_honours (o := b.orientation) h
    refine ⟨c, resolveFor_ok_iff.2 hwriter, ?_⟩
    rw [resolveFor_ok_iff, ← writer?_of_same hb hsame h]
    exact hwriter

/-- Four converters of one priority, registered in one order and in the other. Both registries read
and write narrow integers alike; they part where nothing is asked for and where any object fits. -/
theorem resolve_of_reordered_reversed :
    let table : List Converter :=
      [⟨.numeric .int, .number, 7⟩, ⟨.numeric .int, .integer, 7⟩, ⟨.date, .number, 7⟩,
        ⟨.handle, .reference, 7⟩]
    let b := ({} : Draft).editAll (table.map .register)
    let b' := ({} : Draft).editAll (table.reverse.map .register)
    let int : DeclType := .plain (.primitive .int)
    b'.converters = b.converters.reverse ∧
      b'.build.resolveKind int .number = .ok ⟨.numeric .int, .number, 7⟩ ∧
      b'.build.resolveKind (.plain .handle) .missing = .ok ⟨.handle, .reference, 7⟩ ∧
      (∃ c, b.build.resolveFor int (some .integer) = .ok c ∧
        b'.build.resolveFor int (some .integer) = .ok c) ∧
      b.build.resolveFor int none ≠ b'.build.resolveFor int none ∧
      b.build.resolveKind .object .number ≠ b'.build.resolveKind .object .number := by
  intro table b b' int
  have hreverse : b'.converters = b.converters.reverse := rfl
  have hsame : ∀ c, c ∈ b.converters ↔ c ∈ b'.converters := by
    intro c
    rw [hreverse, List.mem_reverse]
  have hhonours : Honours b.converters int .integer :=
    ⟨.plain (.boxed .int), by decide, ⟨.numeric .int, .integer, 7⟩, by decide, rfl, rfl⟩
  obtain ⟨hkind, htype⟩ := resolve_of_reordered {} (Or.inl rfl) (table.map .register) b' hsame
  refine ⟨hreverse, ?_, ?_, htype int .integer hhonours, ?_, ?_⟩
  · rw [← hkind int .number rfl rfl]
    rfl
  · rw [← hkind (.plain .handle) .missing rfl rfl]
    rfl
  · rintro ⟨⟩
  · rintro ⟨⟩

end Registry

end CellMarshal
