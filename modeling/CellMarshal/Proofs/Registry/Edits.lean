import CellMarshal.Registry.Draft

/-!
# Editing a draft

A draft is edited by registering converters, by removing those of one form and kind, and by turning
the orientation of collections. An edit that is rejected leaves the draft as it was. `editAll` makes
one edit after the other, and `IsChecked` is what every draft satisfies that is reached in this way:
each converter supports its kind of cell, and no two clash. Main statements: `isChecked_edit` (one
edit keeps the property), `isChecked_editAll` (so do any number of them), and `mem_ranked_build` (a
registry holds the converters of its draft).
-/

namespace CellMarshal.Registry.Draft

/-! ## Edits -/

/-- What can be done to a draft. -/
inductive Edit where
  | register (c : Converter)
  | remove (form : ConverterForm) (kind : CellKind)
  | orient (orientation : Orientation)
  deriving DecidableEq, Repr

/-- The draft after an edit, the same draft where a converter is rejected. -/
def edit (b : Draft) : Edit → Draft
  | .register c =>
    match b.register c with
    | .ok b' => b'
    | .error _ => b
  | .remove form kind => b.remove form kind
  | .orient orientation => b.withOrientation orientation

/-- The draft after some edits, from the first to the last. -/
def editAll (b : Draft) (edits : List Edit) : Draft :=
  edits.foldl edit b

/-- A converter that is registered comes last among those of the draft, or the draft stays the same.
-/
theorem edit_register_cases (b : Draft) (c : Converter) :
    (c.form.supports c.kind = true ∧ (∀ d ∈ b.converters, clashes d c = false) ∧
        b.edit (.register c) = { b with converters := b.converters ++ [c] }) ∨
      b.edit (.register c) = b := by
  cases h : b.register c with
  | error f =>
    right
    show (match b.register c with | .ok b' => b' | .error _ => b) = b
    rw [h]
  | ok b' =>
    left
    obtain ⟨hsupports, hclash, rfl⟩ := register_ok_iff.1 h
    refine ⟨hsupports, ?_, ?_⟩
    · intro d hd
      simpa using List.any_eq_false.1 hclash d hd
    · show (match b.register c with | .ok b' => b' | .error _ => b) = _
      rw [h]

/-! ## Checked drafts -/

/-- What the checks of a draft come to, taken together. -/
structure IsChecked (b : Draft) : Prop where
  supports : ∀ c ∈ b.converters, c.form.supports c.kind = true
  noClash : b.converters.Pairwise fun c d => clashes c d = false

/-- An empty draft passes its checks. -/
theorem isChecked_empty : IsChecked {} where
  supports := fun c hc => by cases hc
  noClash := .nil

/-- The stock table passes the checks of a draft. -/
theorem isChecked_ofStock : IsChecked ofStock where
  supports := by decide
  noClash := by decide

/-- **One edit keeps a draft checked.** -/
theorem isChecked_edit {b : Draft} (hb : b.IsChecked) (e : Edit) : (b.edit e).IsChecked := by
  cases e with
  | register c =>
    rcases edit_register_cases b c with ⟨hsupports, hclash, hedit⟩ | hedit
    · rw [hedit]
      constructor
      · intro d hd
        rcases List.mem_append.1 hd with hd | hd
        · exact hb.supports d hd
        · rw [List.mem_singleton.1 hd]
          exact hsupports
      · apply List.pairwise_append.2
        refine ⟨hb.noClash, List.pairwise_singleton _ _, ?_⟩
        intro d hd c' hc'
        rw [List.mem_singleton.1 hc']
        exact hclash d hd
    · rw [hedit]
      exact hb
  | remove form kind =>
    constructor
    · intro c hc
      exact hb.supports c (List.mem_filter.1 hc).1
    · exact hb.noClash.filter _
  | orient orientation => exact ⟨hb.supports, hb.noClash⟩

/-- Any number of edits keep a draft checked. -/
theorem isChecked_editAll {b : Draft} (hb : b.IsChecked) (edits : List Edit) :
    (b.editAll edits).IsChecked := by
  induction edits generalizing b with
  | nil => exact hb
  | cons e edits ih => exact ih (isChecked_edit hb e)

/-- Drafts are checked that are reached from the empty one or from the stock table. -/
theorem isChecked_of_start {start : Draft} (hs : start = {} ∨ start = ofStock)
    (edits : List Edit) : (start.editAll edits).IsChecked := by
  apply isChecked_editAll
  rcases hs with rfl | rfl
  · exact isChecked_empty
  · exact isChecked_ofStock

/-- The registry of a draft holds its converters. -/
theorem mem_ranked_build {b : Draft} {c : Converter} :
    c ∈ b.build.ranked ↔ c ∈ b.converters :=
  mem_rank

end CellMarshal.Registry.Draft
