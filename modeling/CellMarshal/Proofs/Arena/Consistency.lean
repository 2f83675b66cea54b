import CellMarshal.Proofs.Arena.Run

/-!
# The two tables of an arena are inverse to each other

An arena finds objects by handle and handles by identity, in two tables that `put` and `release`
change in different branches. `Arena.Consistent` says that the tables are exact inverses, that every
held handle was counted out by the counter, and that every held object is referred to. Every request
keeps it (`Consistent.serve`), so every run does (`Consistent.serveAll`), whatever objects come in:
an object that takes the address of one that has left is no exception, since the entry of that
address left too.

`Arena.AtMost` bounds the counter and the references by a number of puts, so that neither leaves the
range of 64 bits in a run of fewer than `2 ^ 64 - 1` puts. Main statement: `serveAll_inverse`.
-/

namespace CellMarshal.Arena

/-! ## The invariant -/

/-- **The tables agree.** An identity has a handle exactly where an object of that identity is held
under it, every held handle lies below the counter, and every held object is referred to. -/
structure Consistent (a : Arena) : Prop where
  inverse : ∀ i h, a.byIdentity.find? i = some h ↔
    ∃ s, a.byHandle.find? h = some s ∧ s.object.identity = i
  next_pos : 1 ≤ a.next
  handle_mem : ∀ h s, a.byHandle.find? h = some s → 1 ≤ h ∧ h < a.next
  refs_pos : ∀ h s, a.byHandle.find? h = some s → 1 ≤ s.refs

/-- Whether an object of some identity is held. -/
def HoldsIdentity (a : Arena) (i : Identity) : Prop :=
  ∃ h s, a.byHandle.find? h = some s ∧ s.object.identity = i

/-- An arena that nothing was put into. -/
theorem consistent_empty (retention : Retention) :
    ({ retention := retention } : Arena).Consistent where
  inverse i h := by
    constructor
    · intro hi
      cases hi
    · rintro ⟨s, hs, -⟩
      cases hs
  next_pos := Nat.le_refl 1
  handle_mem h s hs := by cases hs
  refs_pos h s hs := by cases hs

variable {a : Arena}

/-- The handle of an object that is held. -/
theorem Consistent.handleOf?_eq_some_iff (hc : a.Consistent) {o : Object} {h : Handle} :
    a.handleOf? o = some h ↔
      ∃ s, a.byHandle.find? h = some s ∧ s.object.identity = o.identity :=
  hc.inverse o.identity h

/-- An object has no handle exactly if none of its identity is held. -/
theorem Consistent.handleOf?_eq_none_iff (hc : a.Consistent) {o : Object} :
    a.handleOf? o = none ↔ ¬ a.HoldsIdentity o.identity := by
  rw [Option.eq_none_iff_forall_ne_some]
  constructor
  · rintro hn ⟨h, s, hs, hi⟩
    exact hn h (hc.handleOf?_eq_some_iff.2 ⟨s, hs, hi⟩)
  · intro hn h hh
    obtain ⟨s, hs, hi⟩ := hc.handleOf?_eq_some_iff.1 hh
    exact hn ⟨h, s, hs, hi⟩

/-- The counter names no object. -/
theorem Consistent.find?_next (hc : a.Consistent) : a.byHandle.find? a.next = none := by
  cases hs : a.byHandle.find? a.next with
  | none => rfl
  | some s => exact absurd (hc.handle_mem _ s hs).2 (Nat.lt_irrefl _)

/-! ## What a request keeps -/

/-- Changing the references of a held object, to at least one, keeps the tables inverse. -/
theorem Consistent.setRefs (hc : a.Consistent) {h : Handle} {s : Slot} {n : Nat}
    (hs : a.byHandle.find? h = some s) (hn : 1 ≤ n) {t : Table Handle Slot}
    (ht : ∀ l, t.find? l = if l = h then some { s with refs := n } else a.byHandle.find? l) :
    ({ a with byHandle := t } : Arena).Consistent where
  inverse i l := by
    rw [hc.inverse i l]
    by_cases hl : l = h
    · subst hl
      simp only [ht, if_true, hs, Option.some.injEq, exists_eq_left']
    · simp only [ht, if_neg hl]
  next_pos := hc.next_pos
  handle_mem l u hu := by
    by_cases hl : l = h
    · subst hl
      exact hc.handle_mem l s hs
    · rw [ht, if_neg hl] at hu
      exact hc.handle_mem l u hu
  refs_pos l u hu := by
    by_cases hl : l = h
    · rw [ht, if_pos hl] at hu
      cases hu
      exact hn
    · rw [ht, if_neg hl] at hu
      exact hc.refs_pos l u hu

/-- A new entry, under the counter, for an identity that is not held. -/
theorem Consistent.insertNew (hc : a.Consistent) {o : Object} (ho : a.handleOf? o = none) :
    ({ a with
      next := a.next + 1
      byHandle := a.byHandle.insert a.next { object := o, refs := 1 }
      byIdentity := a.byIdentity.insert o.identity a.next } : Arena).Consistent where
  inverse i l := by
    have hfree := hc.handleOf?_eq_none_iff.1 ho
    simp only [Table.find?_insert]
    by_cases hi : i = o.identity
    · subst hi
      rw [if_pos rfl]
      by_cases hl : l = a.next
      · subst hl
        simp
      · rw [if_neg hl]
        constructor
        · intro e
          exact absurd (Option.some.inj e).symm hl
        · rintro ⟨s, hs, hsi⟩
          exact absurd ⟨l, s, hs, hsi⟩ hfree
    · rw [if_neg hi, hc.inverse i l]
      by_cases hl : l = a.next
      · subst hl
        rw [hc.find?_next, if_pos rfl]
        constructor
        · rintro ⟨s, hs, -⟩
          cases hs
        · rintro ⟨s, hs, hsi⟩
          cases hs
          exact absurd hsi.symm hi
      · rw [if_neg hl]
  next_pos := Nat.le_add_left 1 a.next
  handle_mem l u hu := by
    simp only [Table.find?_insert] at hu
    by_cases hl : l = a.next
    · subst hl
      exact ⟨hc.next_pos, Nat.lt_succ_self _⟩
    · rw [if_neg hl] at hu
      have := hc.handle_mem l u hu
      exact ⟨this.1, Nat.lt_succ_of_lt this.2⟩
  refs_pos l u hu := by
    simp only [Table.find?_insert] at hu
    by_cases hl : l = a.next
    · rw [if_pos hl] at hu
      cases hu
      exact Nat.le_refl 1
    · rw [if_neg hl] at hu
      exact hc.refs_pos l u hu

/-- The entries of a handle and of the identity held under it go together. -/
theorem Consistent.eraseBoth (hc : a.Consistent) {h : Handle} {s : Slot}
    (hs : a.byHandle.find? h = some s) :
    ({ a with
      byHandle := a.byHandle.erase h
      byIdentity := a.byIdentity.erase s.object.identity } : Arena).Consistent where
  inverse i l := by
    simp only [Table.find?_erase]
    by_cases hl : l = h
    · subst hl
      rw [if_pos rfl]
      constructor
      · intro hi
        -- another identity cannot have this handle, for one object is held under it
        by_cases hsi : i = s.object.identity
        · rw [if_pos hsi] at hi
          cases hi
        · rw [if_neg hsi] at hi
          obtain ⟨u, hu, hui⟩ := (hc.inverse i l).1 hi
          rw [hs] at hu
          cases hu
          exact absurd hui.symm hsi
      · rintro ⟨u, hu, -⟩
        cases hu
    · rw [if_neg hl, ← hc.inverse i l]
      by_cases hsi : i = s.object.identity
      · rw [if_pos hsi, hsi, (hc.inverse _ h).2 ⟨s, hs, rfl⟩]
        constructor
        · intro e
          cases e
        · intro e
          exact absurd (Option.some.inj e).symm hl
      · rw [if_neg hsi]
  next_pos := hc.next_pos
  handle_mem l u hu := by
    simp only [Table.find?_erase] at hu
    split at hu
    · cases hu
    · exact hc.handle_mem l u hu
  refs_pos l u hu := by
    simp only [Table.find?_erase] at hu
    split at hu
    · cases hu
    · exact hc.refs_pos l u hu

/-- Handing an object over keeps the tables in agreement, whether it was held or not. -/
theorem Consistent.put (hc : a.Consistent) (o : Object) : (a.put o).2.Consistent := by
  cases ho : a.handleOf? o with
  | none =>
    rw [put_of_new ho]
    exact hc.insertNew ho
  | some h =>
    rw [put_of_held ho]
    obtain ⟨s, hs, -⟩ := hc.handleOf?_eq_some_iff.1 ho
    refine hc.setRefs hs (n := s.refs + 1) (Nat.le_add_left 1 _) fun l => ?_
    rw [Table.find?_modify]
    by_cases hl : l = h
    · subst hl
      rw [if_pos rfl, if_pos rfl, hs]
      rfl
    · rw [if_neg hl, if_neg hl]

/-- Giving a reference back keeps the tables in agreement, whether the entry leaves or not. -/
theorem Consistent.release (hc : a.Consistent) {b : Arena} {h : Handle} {gone : Bool}
    (hr : a.release h = .ok (gone, b)) : b.Consistent := by
  obtain ⟨s, hs, ⟨-, -, rfl⟩ | ⟨-, hn, -, rfl⟩ | ⟨-, -, -, rfl⟩⟩ := release_cases hr
  · exact hc
  · exact hc.setRefs hs (n := s.refs - 1) (by omega) fun l => Table.find?_insert _ _ _ _
  · exact hc.eraseBoth hs

/-- **Every request keeps the tables inverse.** -/
theorem Consistent.serve (hc : a.Consistent) (q : Request) : (a.serve q).2.Consistent :=
  serve_cases q hc (fun o _ => hc.put o) fun _ _ _ hr => hc.release hr

/-- **Every run keeps the tables inverse.** -/
theorem Consistent.serveAll (hc : a.Consistent) (qs : List Request) :
    (a.serveAll qs).2.Consistent :=
  serveAll_induction (P := Consistent) (fun _ q h => Consistent.serve h q) hc qs

/-! ## Handles that the host was given -/

/-- A handle that is given out lies below the counter. -/
theorem Consistent.handle_lt_of_serve (hc : a.Consistent) {q : Request} {h : Handle}
    (hr : (a.serve q).1.handle? = some h) : h < (a.serve q).2.next := by
  have hput : ∀ o, (a.put o).1 < (a.put o).2.next := by
    intro o
    cases ho : a.handleOf? o with
    | none =>
      rw [put_of_new ho]
      exact Nat.lt_succ_self _
    | some l =>
      rw [put_of_held ho]
      obtain ⟨s, hs, -⟩ := hc.handleOf?_eq_some_iff.1 ho
      exact (hc.handle_mem l s hs).2
  cases q with
  | put o =>
    cases hr
    exact hput o
  | handOver o =>
    cases hr
    exact hput o
  | handleOf o =>
    cases ho : a.handleOf? o with
    | none =>
      simp only [Arena.serve, ho, Reply.handle?, reduceCtorEq] at hr
    | some l =>
      simp only [Arena.serve, ho, Reply.handle?, Option.some.injEq] at hr
      subst hr
      obtain ⟨s, hs, -⟩ := hc.handleOf?_eq_some_iff.1 ho
      exact (hc.handle_mem l s hs).2
  | release l =>
    simp only [Arena.serve, serveRelease] at hr
    split at hr <;> cases hr
  | get l => cases hr
  | find l => cases hr
  | holds l => cases hr

/-- Every handle that was given out in a run lies below the counter. -/
theorem Consistent.handle_lt_of_serveAll (hc : a.Consistent) {qs : List Request} {h : Handle}
    (hh : h ∈ handlesIn (a.serveAll qs).1) : h < (a.serveAll qs).2.next := by
  induction qs generalizing a with
  | nil => cases hh
  | cons q qs ih =>
    simp only [handlesIn, Arena.serveAll, List.mem_filterMap, List.mem_cons] at hh
    obtain ⟨reply, rfl | hm, hr⟩ := hh
    · exact Nat.lt_of_lt_of_le (hc.handle_lt_of_serve hr) (serveAll_next_le _ qs)
    · exact ih (Consistent.serve hc q) (List.mem_filterMap.2 ⟨reply, hm, hr⟩)

/-- An object that is held is put under the handle it has. -/
theorem Consistent.put_fst_of_find? (hc : a.Consistent) {h : Handle} {s : Slot} {o : Object}
    (hs : a.byHandle.find? h = some s) (hi : s.object.identity = o.identity) :
    (a.put o).1 = h := by
  rw [put_of_held (hc.handleOf?_eq_some_iff.2 ⟨s, hs, hi⟩)]

/-- An object that is not held is put under the counter. -/
theorem Consistent.put_fst_of_not_holds (hc : a.Consistent) {o : Object}
    (ho : ¬ a.HoldsIdentity o.identity) : (a.put o).1 = a.next := by
  rw [put_of_new (hc.handleOf?_eq_none_iff.2 ho)]

/-! ## Sizes of the counters -/

/-- A number of puts bounds the counter and the references. -/
structure AtMost (a : Arena) (n : Nat) : Prop where
  next_le : a.next ≤ n + 1
  refs_le : ∀ h s, a.byHandle.find? h = some s → s.refs ≤ n

/-- A bound on the puts may be raised. -/
theorem AtMost.mono {m n : Nat} (hm : a.AtMost m) (h : m ≤ n) : a.AtMost n where
  next_le := Nat.le_trans hm.next_le (Nat.succ_le_succ h)
  refs_le l s hs := Nat.le_trans (hm.refs_le l s hs) h

/-- One more put raises the bound by one. -/
theorem AtMost.put {n : Nat} (hn : a.AtMost n) (o : Object) : (a.put o).2.AtMost (n + 1) := by
  cases ho : a.handleOf? o with
  | none =>
    rw [put_of_new ho]
    refine ⟨Nat.succ_le_succ hn.next_le, fun l u hu => ?_⟩
    simp only [Table.find?_insert] at hu
    split at hu
    · cases hu
      exact Nat.le_add_left 1 n
    · exact Nat.le_succ_of_le (hn.refs_le l u hu)
  | some h =>
    rw [put_of_held ho]
    refine ⟨Nat.le_succ_of_le hn.next_le, fun l u hu => ?_⟩
    simp only [Table.find?_modify] at hu
    split at hu
    · obtain ⟨s, hs, rfl⟩ := Option.map_eq_some_iff.1 hu
      exact Nat.succ_le_succ (hn.refs_le l s hs)
    · exact Nat.le_succ_of_le (hn.refs_le l u hu)

/-- A release does not raise the bound. -/
theorem AtMost.release {n : Nat} (hn : a.AtMost n) {b : Arena} {h : Handle} {gone : Bool}
    (hr : a.release h = .ok (gone, b)) : b.AtMost n := by
  obtain ⟨s, hs, ⟨-, -, rfl⟩ | ⟨-, -, -, rfl⟩ | ⟨-, -, -, rfl⟩⟩ := release_cases hr
  · exact hn
  · refine ⟨hn.next_le, fun l u hu => ?_⟩
    simp only [Table.find?_insert] at hu
    split at hu
    · cases hu
      exact Nat.le_trans (Nat.sub_le _ _) (hn.refs_le h s hs)
    · exact hn.refs_le l u hu
  · refine ⟨hn.next_le, fun l u hu => ?_⟩
    simp only [Table.find?_erase] at hu
    split at hu
    · cases hu
    · exact hn.refs_le l u hu

/-- A request raises the bound by one if it is a put. -/
theorem AtMost.serve {n : Nat} (hn : a.AtMost n) (q : Request) :
    (a.serve q).2.AtMost (n + if q.isPut then 1 else 0) := by
  have hle : n ≤ n + if q.isPut then 1 else 0 := Nat.le_add_right n _
  refine serve_cases (P := fun b => b.AtMost _) q (hn.mono hle) (fun o hq => ?_) ?_
  · rw [if_pos hq]
    exact hn.put o
  · intro h gone b hr
    exact (hn.release hr).mono hle

/-- A run raises the bound by the number of its puts. -/
theorem AtMost.serveAll {n : Nat} (hn : a.AtMost n) (qs : List Request) :
    (a.serveAll qs).2.AtMost (n + qs.countP Request.isPut) := by
  induction qs generalizing a n with
  | nil => exact hn
  | cons q qs ih =>
    rw [List.countP_cons, Nat.add_comm (qs.countP _), ← Nat.add_assoc]
    exact ih (AtMost.serve hn q)

/-! ## Every run -/

/-- **The tables are exact inverses after every run**, under either retention, whatever the objects
and handles in the requests. So an object that is held is put under the handle it has, two objects
that are held have different handles, and an object whose identity is not held, be it that of an
object that has left, is put under a handle that no reply of the run gave out. Fewer than
`2 ^ 64 - 1` puts keep the counter and all references below `2 ^ 64`. -/
theorem serveAll_inverse (retention : Retention) (qs : List Request) :
    let ran := ({ retention := retention } : Arena).serveAll qs
    ran.2.Consistent ∧
      (∀ h s o, ran.2.byHandle.find? h = some s → s.object.identity = o.identity →
        (ran.2.put o).1 = h) ∧
      (∀ o o', ran.2.HoldsIdentity o.identity → ran.2.HoldsIdentity o'.identity →
        o.identity ≠ o'.identity → (ran.2.put o).1 ≠ (ran.2.put o').1) ∧
      (∀ o, ¬ ran.2.HoldsIdentity o.identity → (ran.2.put o).1 ∉ handlesIn ran.1) ∧
      (qs.countP Request.isPut < UInt64.size - 1 →
        ran.2.next < UInt64.size ∧
          ∀ h s, ran.2.byHandle.find? h = some s → s.refs < UInt64.size) := by
  intro ran
  have hstart := consistent_empty retention
  have hc : ran.2.Consistent := hstart.serveAll qs
  have hmost : ran.2.AtMost (0 + qs.countP Request.isPut) :=
    AtMost.serveAll ⟨Nat.le_refl 1, fun h s hs => by cases hs⟩ qs
  refine ⟨hc, fun h s o hs hi => hc.put_fst_of_find? hs hi, ?_, ?_, ?_⟩
  · rintro o o' ⟨h, s, hs, hi⟩ ⟨h', s', hs', hi'⟩ hne heq
    rw [hc.put_fst_of_find? hs hi, hc.put_fst_of_find? hs' hi'] at heq
    subst heq
    rw [hs] at hs'
    cases hs'
    exact hne (hi.symm.trans hi')
  · intro o ho hmem
    rw [hc.put_fst_of_not_holds ho] at hmem
    exact absurd (hstart.handle_lt_of_serveAll hmem) (Nat.lt_irrefl _)
  · intro hfew
    rw [Nat.zero_add] at hmost
    exact ⟨Nat.lt_of_le_of_lt hmost.next_le (by omega),
      fun h s hs => Nat.lt_of_le_of_lt (hmost.refs_le h s hs) (by omega)⟩

/-- An object put twice and given back twice has left; one at its address gets a new handle. -/
theorem serveAll_inverse_recycled :
    let curve : Object := { identity := .made 7, classId := { name := "Curve" }, content := none }
    let bond : Object := { identity := .made 7, classId := { name := "Bond" }, content := none }
    let ran := ({ retention := .counted } : Arena).serveAll
      [.put curve, .handOver curve, .release 1, .release 1]
    handlesIn ran.1 = [1, 1] ∧ (ran.2.put bond).1 = 2 ∧ (ran.2.put bond).1 ∉ handlesIn ran.1 := by
  intro curve bond ran
  have hfree : ¬ ran.2.HoldsIdentity bond.identity := by
    rintro ⟨h, s, hs, -⟩
    cases hs
  exact ⟨rfl, rfl, (serveAll_inverse .counted _).2.2.2.1 bond hfree⟩

end CellMarshal.Arena
