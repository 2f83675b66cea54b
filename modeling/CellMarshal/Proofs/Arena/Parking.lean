import CellMarshal.Proofs.Arena.Permanence

/-!
# Many objects handed over, and all given back

`putAll` hands a list of objects over and gives their handles in order. It is a run of `put`
requests (`serveAll_map_put`), and its effect is told by the handles alone: the references of a
handle rise by the number of times it was given (`Consistent.refs_putAll`), new entries are those of
the new handles (`Consistent.holds_putAll_iff`), and what was held stays (`get?_putAll`). So a host
that gives every handle back as often as it was given has the entries as they were before
(`Consistent.restores_putAll`), in whatever order it does so.
-/

namespace CellMarshal.Arena

variable {a b : Arena}

/-! ## Handing many objects over -/

/-- Hands objects over one after the other. -/
def putAll : Arena → List Object → List Handle × Arena
  | a, [] => ([], a)
  | a, o :: os => ((a.put o).1 :: ((a.put o).2.putAll os).1, ((a.put o).2.putAll os).2)

/-- Handing two lists over one after the other is handing over both together. -/
theorem putAll_append (a : Arena) (os ps : List Object) :
    a.putAll (os ++ ps) =
      ((a.putAll os).1 ++ ((a.putAll os).2.putAll ps).1, ((a.putAll os).2.putAll ps).2) := by
  induction os generalizing a with
  | nil => rfl
  | cons o os ih =>
    rw [List.cons_append, putAll, ih]
    rfl

/-- Handing objects over is a run of requests. -/
theorem serveAll_map_put (a : Arena) (os : List Object) :
    a.serveAll (os.map .put) = ((a.putAll os).1.map .handle, (a.putAll os).2) := by
  induction os generalizing a with
  | nil => rfl
  | cons o os ih =>
    rw [List.map_cons, serveAll, putAll]
    simp only [serve, ih]
    rfl

/-- Handing objects over keeps the tables in agreement. -/
theorem Consistent.putAll (hc : a.Consistent) (os : List Object) : (a.putAll os).2.Consistent := by
  induction os generalizing a with
  | nil => exact hc
  | cons o os ih => exact ih (hc.put o)

/-- Handing objects over does not change what becomes of unused objects. -/
theorem retention_putAll (a : Arena) (os : List Object) :
    (a.putAll os).2.retention = a.retention := by
  induction os generalizing a with
  | nil => rfl
  | cons o os ih => exact (ih _).trans (retention_put a o)

/-- **References are taken once for each time that a handle is given.** -/
theorem Consistent.refs_putAll (hc : a.Consistent) (os : List Object) (h : Handle) :
    (a.putAll os).2.refs h = a.refs h + (a.putAll os).1.count h := by
  induction os generalizing a with
  | nil => rfl
  | cons o os ih =>
    have hrest := ih (hc.put o)
    have hput := hc.refs_put o h
    simp only [Arena.putAll, List.count_cons, beq_iff_eq]
    omega

/-- Handing objects over leaves every object that was held under its handle. -/
theorem Consistent.get?_putAll (hc : a.Consistent) {h : Handle} {o : Object}
    (ho : a.get? h = some o) (os : List Object) : (a.putAll os).2.get? h = some o := by
  induction os generalizing a with
  | nil => exact ho
  | cons p os ih =>
    exact ih (hc.put p) ((get?_put (hc.lt_next_of_get? ho) p).trans ho)

/-- The handles that name an object afterwards are those that did before and those given. -/
theorem Consistent.holds_putAll_iff (hc : a.Consistent) (os : List Object) (h : Handle) :
    (a.putAll os).2.holds h = true ↔ a.holds h = true ∨ h ∈ (a.putAll os).1 := by
  have hrefs := hc.refs_putAll os h
  rw [← (hc.putAll os).refs_pos_iff, ← hc.refs_pos_iff, ← List.count_pos_iff (a := h)]
  omega

/-! ## Entries -/

/-- A handle is held exactly if it names an object. -/
theorem holds_iff_get? {h : Handle} : a.holds h = true ↔ ∃ o, a.get? h = some o := by
  rw [holds_iff]
  constructor
  · rintro ⟨s, hs⟩
    exact ⟨s.object, by rw [get?, hs]; rfl⟩
  · rintro ⟨o, ho⟩
    obtain ⟨s, hs, -⟩ := Option.map_eq_some_iff.1 ho
    exact ⟨s, hs⟩

/-- An entry is its object and its references. -/
theorem find?_of_get? {h : Handle} {o : Object} (ho : a.get? h = some o) :
    a.byHandle.find? h = some { object := o, refs := a.refs h } := by
  obtain ⟨s, hs, rfl⟩ := Option.map_eq_some_iff.1 ho
  rw [hs, refs_of_some hs]

/-- An entry is as it was where its object, if there was one, and its references are. -/
theorem Consistent.find?_eq_of_refs (hb : b.Consistent) {h : Handle}
    (hrefs : b.refs h = a.refs h) (hget : ∀ o, a.get? h = some o → b.get? h = some o) :
    b.byHandle.find? h = a.byHandle.find? h := by
  cases ho : a.get? h with
  | some o => rw [find?_of_get? ho, find?_of_get? (hget o ho), hrefs]
  | none =>
    have hnone : a.byHandle.find? h = none := Option.map_eq_none_iff.1 ho
    have hfree : b.holds h = false := by
      rw [← Bool.not_eq_true, ← hb.refs_pos_iff, hrefs, refs_of_none hnone]
      exact Nat.lt_irrefl 0
    rw [hnone, holds_eq_false_iff.1 hfree]

/-- Handing something over changes the entries: the handle of the first object has a reference more.
-/
theorem Consistent.eq_nil_of_putAll (hc : a.Consistent) {os : List Object}
    (h : ∀ l, (a.putAll os).2.byHandle.find? l = a.byHandle.find? l) : os = [] := by
  cases os with
  | nil => rfl
  | cons o os =>
    have hrefs := hc.refs_putAll (o :: os) (a.put o).1
    have hsame : (a.putAll (o :: os)).2.refs (a.put o).1 = a.refs (a.put o).1 := by
      simp only [refs, h]
    rw [Arena.putAll, List.count_cons_self] at hrefs
    rw [Arena.putAll] at hsame
    omega

/-! ## Giving many handles back -/

/-- Whether a reply tells of a release that succeeded. -/
def Reply.isReleased : Reply → Bool
  | released (.ok _) => true
  | _ => false

/-- Handles can be given back one after the other, in any order, provided that none is given back
more often than it has references; each then has as many references less. -/
theorem Consistent.serveAll_map_release (hc : a.Consistent) (hk : a.retention = .counted)
    (hs : List Handle) (hle : ∀ h, hs.count h ≤ a.refs h) :
    (∀ reply ∈ (a.serveAll (hs.map .release)).1, reply.isReleased = true) ∧
      ∀ h, (a.serveAll (hs.map .release)).2.refs h + hs.count h = a.refs h := by
  induction hs generalizing a with
  | nil =>
    refine ⟨?_, fun h => rfl⟩
    intro reply hreply
    cases hreply
  | cons l hs ih =>
    have hpos : 0 < a.refs l := by
      have := hle l
      rw [List.count_cons_self] at this
      omega
    obtain ⟨gone, b, hr⟩ := (hc.release_ok_iff hk).2 hpos
    have hback : ∀ h, b.refs h + (if l = h then 1 else 0) = a.refs h := hc.refs_release hk hr
    have hcount : ∀ h, (l :: hs).count h = hs.count h + if l = h then 1 else 0 := fun h => by
      rw [List.count_cons]
      simp only [beq_iff_eq]
    obtain ⟨hreplies, hrefs⟩ := ih (hc.release hr) ((retention_release hr).trans hk) fun h => by
      have := hle h
      have := hback h
      have := hcount h
      omega
    rw [List.map_cons, Arena.serveAll, serve_release_of_ok hr]
    refine ⟨?_, fun h => ?_⟩
    · intro reply hreply
      rcases List.mem_cons.1 hreply with rfl | hreply
      · rfl
      · exact hreplies reply hreply
    · show (b.serveAll (hs.map .release)).2.refs h + (l :: hs).count h = a.refs h
      have := hback h
      have := hcount h
      have := hrefs h
      omega

/-- **What was handed over can be given back.** A host that gives the handles back, each as often as
it was given, in whatever order, succeeds with every release, and leaves the entries as they were
before. -/
theorem Consistent.restores_putAll (hc : a.Consistent) (hk : a.retention = .counted)
    (os : List Object) (hs : List Handle) (hperm : hs.Perm (a.putAll os).1) :
    (∀ reply ∈ ((a.putAll os).2.serveAll (hs.map .release)).1, reply.isReleased = true) ∧
      ∀ h, ((a.putAll os).2.serveAll (hs.map .release)).2.byHandle.find? h =
        a.byHandle.find? h := by
  have hafter := hc.putAll os
  have hcounts : ∀ h, (a.putAll os).2.refs h = a.refs h + hs.count h := fun h => by
    rw [hc.refs_putAll os h, hperm.count_eq]
  obtain ⟨hreplies, hrefs⟩ := hafter.serveAll_map_release ((retention_putAll a os).trans hk)
    hs fun h => by
      rw [hcounts h]
      exact Nat.le_add_left _ _
  refine ⟨hreplies, fun h => ?_⟩
  have hback : ((a.putAll os).2.serveAll (hs.map .release)).2.refs h = a.refs h :=
    Nat.add_right_cancel ((hrefs h).trans (hcounts h))
  refine Consistent.find?_eq_of_refs (hafter.serveAll _) hback fun o ho => ?_
  have hheld := hc.get?_putAll ho os
  rcases get?_serveAll (hafter.lt_next_of_get? hheld) (hs.map .release) with hsame | hgone
  · exact hsame.trans hheld
  · -- an object with references left has not gone
    have hpos : 0 < a.refs h := hc.refs_pos_iff.2 (holds_iff_get?.2 ⟨o, ho⟩)
    rw [← hback, refs_of_none (Option.map_eq_none_iff.1 hgone)] at hpos
    exact absurd hpos (Nat.lt_irrefl 0)

end CellMarshal.Arena
