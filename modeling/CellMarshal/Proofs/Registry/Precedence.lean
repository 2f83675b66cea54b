import CellMarshal.Proofs.Registry.Edits

/-!
# Precedence among converters

A registry ranks its converters once, and every look-up takes the first of the ranking that passes a
test. Said without the ranking, this is the converter of the greatest priority among those that were
registered and pass, and of several such the one that was registered first (`IsForemost`). There is
at most one, and there is one as soon as any converter passes.

For a kind of cell and a slot the look-up goes through an index of the converters that read the
kind, in which one that hands cells on stands under every kind, and one that tolerates missing cells
under two. It comes to the foremost of all converters nonetheless. Main statements:
`find?_rank_eq_some_iff`, `IsForemost.unique`, `reader?_ofConverters_eq_some_iff` and
`resolveKind_isForemost`.
-/

namespace CellMarshal.Registry

/-- Of two places in a list one is before the other, unless they are the same place. -/
theorem places_cases {α : Type} {before after before' after' : List α} {x y : α}
    (h : before ++ x :: after = before' ++ y :: after') :
    x ∈ before' ∨ x = y ∨ y ∈ before := by
  rcases List.append_eq_append_iff.1 h with ⟨mid, rfl, htail⟩ | ⟨mid, rfl, htail⟩
  · cases mid with
    | nil => exact .inr (.inl (List.cons.inj htail).1)
    | cons z mid => exact .inl (by simp [(List.cons.inj htail).1])
  · cases mid with
    | nil => exact .inr (.inl (List.cons.inj htail).1.symm)
    | cons z mid => exact .inr (.inr (by simp [(List.cons.inj htail).1]))

/-- Of the converters of a list that pass a test, the one of the greatest priority, and the earliest
of those. -/
structure IsForemost (p : Converter → Prop) (cs : List Converter) (c : Converter) : Prop where
  passes : p c
  greatest : ∀ d ∈ cs, p d → d.priority ≤ c.priority
  earliest : ∃ before after, cs = before ++ c :: after ∧
    ∀ d ∈ before, p d → d.priority < c.priority

namespace IsForemost

variable {p : Converter → Prop} {cs : List Converter} {c d : Converter}

/-- The foremost converter is one of the list. -/
theorem mem (h : IsForemost p cs c) : c ∈ cs := by
  obtain ⟨before, after, rfl, -⟩ := h.earliest
  exact List.mem_append_right _ List.mem_cons_self

/-- A converter that passes goes before later ones of no greater priority. -/
theorem head (hp : p c) (h : ∀ d ∈ cs, p d → d.priority ≤ c.priority) :
    IsForemost p (c :: cs) c where
  passes := hp
  greatest := by
    intro d hd hpd
    rcases List.mem_cons.1 hd with rfl | hd
    · exact Int32.le_refl _
    · exact h d hd hpd
  earliest := ⟨[], cs, rfl, fun d hd => by cases hd⟩

/-- A converter stays foremost behind one that does not pass or has a smaller priority. -/
theorem cons (h : IsForemost p cs c) (hd : p d → d.priority < c.priority) :
    IsForemost p (d :: cs) c where
  passes := h.passes
  greatest := by
    intro e he hpe
    rcases List.mem_cons.1 he with rfl | he
    · exact Int32.le_of_lt (hd hpe)
    · exact h.greatest e he hpe
  earliest := by
    obtain ⟨before, after, rfl, hbefore⟩ := h.earliest
    refine ⟨d :: before, after, rfl, ?_⟩
    intro e he hpe
    rcases List.mem_cons.1 he with rfl | he
    · exact hd hpe
    · exact hbefore e he hpe

/-- None but one converter is foremost. -/
theorem unique (hc : IsForemost p cs c) (hd : IsForemost p cs d) : c = d := by
  obtain ⟨before, after, hcs, hless⟩ := hc.earliest
  obtain ⟨before', after', hcs', hless'⟩ := hd.earliest
  -- were one of the two before the other, it would have a smaller priority and not be the greatest
  rcases places_cases (hcs.symm.trans hcs') with hbefore | heq | hbefore
  · exact absurd (hc.greatest d hd.mem hd.passes) (Int32.not_le.2 (hless' c hbefore hc.passes))
  · exact heq
  · exact absurd (hd.greatest c hc.mem hc.passes) (Int32.not_le.2 (hless d hbefore hd.passes))

end IsForemost

/-! ## The first of a ranking -/

section ranking

variable {q : Converter → Bool} {cs ds : List Converter} {c : Converter}

/-- Where a converter that passes is ranked among others, it is found unless another one is found
that has a greater priority. -/
theorem find?_insertRanked (h : IsRanked ds) (hc : q c = true) :
    (insertRanked c ds).find? q =
      match ds.find? q with
      | none => some c
      | some d => if d.priority ≤ c.priority then some c else some d := by
  rw [← List.head?_filter, filter_insertRanked_of_pos hc h, ← List.head?_filter]
  cases ds.filter q with
  | nil => rfl
  | cons d rest =>
    rw [insertRanked]
    by_cases hle : d.priority ≤ c.priority
    · simp only [hle, if_true, List.head?_cons]
    · simp only [hle, if_false, List.head?_cons]

/-- Nothing is found in a ranking exactly if nothing passes the test. -/
theorem find?_rank_eq_none_iff : (rank cs).find? q = none ↔ ∀ c ∈ cs, q c = false := by
  simp only [List.find?_eq_none, mem_rank, Bool.not_eq_true]

/-- What is found first in a ranking is foremost. -/
theorem isForemost_of_find?_rank (h : (rank cs).find? q = some c) :
    IsForemost (fun d => q d = true) cs c := by
  induction cs generalizing c with
  | nil => cases h
  | cons e cs ih =>
    change (insertRanked e (rank cs)).find? q = some c at h
    by_cases he : q e = true
    · rw [find?_insertRanked (rank_sorted cs) he] at h
      rcases hfound : (rank cs).find? q with _ | d
      · rw [hfound] at h
        cases h
        refine .head he fun d hd hq => ?_
        rw [find?_rank_eq_none_iff.1 hfound d hd] at hq
        cases hq
      · have hd := ih hfound
        rw [hfound] at h
        by_cases hle : d.priority ≤ e.priority
        · simp only [hle, if_true] at h
          cases h
          exact .head he fun x hx hq => Int32.le_trans (hd.greatest x hx hq) hle
        · simp only [hle, if_false] at h
          cases h
          exact hd.cons fun _ => Int32.not_le.1 hle
    · rw [← List.head?_filter, filter_insertRanked_of_neg _ (by simpa using he),
        List.head?_filter] at h
      exact (ih h).cons fun hq => absurd hq he

/-- **The first of a ranking that passes is the foremost of the list that was ranked.** -/
theorem find?_rank_eq_some_iff :
    (rank cs).find? q = some c ↔ IsForemost (fun d => q d = true) cs c := by
  refine ⟨isForemost_of_find?_rank, fun h => ?_⟩
  rcases hfound : (rank cs).find? q with _ | d
  · have hq := h.passes
    rw [find?_rank_eq_none_iff.1 hfound c h.mem] at hq
    cases hq
  · rw [(isForemost_of_find?_rank hfound).unique h]

end ranking

/-! ## Converters for cells -/

section readers

variable {cs : List Converter} {o : Orientation} {target : DeclType} {kind : CellKind}

/-- The index comes to the foremost of all converters that read the kind and produce what the slot
can hold. -/
theorem reader?_ofConverters_eq_some_iff {c : Converter} :
    (ofConverters cs o).reader? target kind = some c ↔
      IsForemost (fun d => d.reads kind = true ∧ d.produces target = true) cs c := by
  rw [reader?_eq_find?, ofConverters, find?_rank_eq_some_iff]
  simp only [Bool.and_eq_true]

/-- No converter is found for a cell exactly if none reads it and produces what the slot can hold.
-/
theorem reader?_ofConverters_eq_none_iff :
    (ofConverters cs o).reader? target kind = none ↔
      ∀ c ∈ cs, ¬(c.reads kind = true ∧ c.produces target = true) := by
  rw [reader?_eq_find?, ofConverters, find?_rank_eq_none_iff]
  simp only [← Bool.and_eq_true, Bool.not_eq_true]

end readers

/-- **Registries resolve cells by precedence.** A draft that is reached by edits, from no converters
or from the stock table, never holds two converters for the same type and kind at the same priority,
nor one whose form does not support its kind. The registry that is built from it resolves a kind of
cell for a slot to the foremost of those converters that read the kind and produce what the slot can
hold, and it fails, with the message that there is no converter, exactly if there are none. -/
theorem resolveKind_isForemost (start : Draft) (hs : start = {} ∨ start = .ofStock)
    (edits : List Draft.Edit) :
    let b := start.editAll edits
    (b.converters.Pairwise fun c d =>
        ¬(c.valueType = d.valueType ∧ c.kind = d.kind ∧ c.priority = d.priority)) ∧
      (∀ c ∈ b.converters, c.form.supports c.kind = true) ∧
      ∀ target kind,
        (∀ c, b.build.resolveKind target kind = .ok c ↔
          IsForemost (fun d => d.reads kind = true ∧ d.produces target = true) b.converters c) ∧
        ∀ f, b.build.resolveKind target kind = .error f ↔
          f = .noConverter target.display kind.word ∧
            ∀ c ∈ b.converters, ¬(c.reads kind = true ∧ c.produces target = true) := by
  intro b
  have hchecked : b.IsChecked := Draft.isChecked_of_start hs edits
  refine ⟨?_, hchecked.supports, fun target kind => ⟨fun c => ?_, fun f => ?_⟩⟩
  · refine hchecked.noClash.imp fun {c d} h hsame => ?_
    simp [Draft.clashes, hsame] at h
  · rw [resolveKind_ok_iff]
    exact reader?_ofConverters_eq_some_iff
  · rw [resolveKind_error_iff, and_comm]
    exact and_congr_right fun _ => reader?_ofConverters_eq_none_iff

/-- Moments and dates are registered at one priority, moments first, and a second converter for
dates and one from texts to truth values are rejected. A number in a slot for any object is a
moment, a missing cell is read for a reference, and no text is read once the converter for texts is
removed. -/
theorem resolveKind_isForemost_tied :
    let edits : List Draft.Edit :=
      [.register ⟨.text, .text, 5⟩, .register ⟨.dateTime, .number, 2⟩,
        .register ⟨.date, .number, 2⟩, .register ⟨.date, .number, 2⟩,
        .register ⟨.logical, .text, 9⟩, .register ⟨.handle, .reference, -1⟩, .remove .text .text]
    let b := ({} : Draft).editAll edits
    b.converters =
        [⟨.dateTime, .number, 2⟩, ⟨.date, .number, 2⟩, ⟨.handle, .reference, -1⟩] ∧
      IsForemost (fun d => d.reads .number = true ∧ d.produces .object = true) b.converters
        ⟨.dateTime, .number, 2⟩ ∧
      IsForemost (fun d => d.reads .missing = true ∧ d.produces (.plain .handle) = true)
        b.converters ⟨.handle, .reference, -1⟩ ∧
      ∀ c ∈ b.converters, ¬(c.reads .text = true ∧ c.produces .object = true) := by
  intro edits b
  obtain ⟨-, -, h⟩ := resolveKind_isForemost {} (Or.inl rfl) edits
  exact ⟨rfl, ((h .object .number).1 _).1 rfl, ((h (.plain .handle) .missing).1 _).1 rfl,
    (((h .object .text).2 _).1 rfl).2⟩

end CellMarshal.Registry
