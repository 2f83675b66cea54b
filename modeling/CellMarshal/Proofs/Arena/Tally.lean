import CellMarshal.Proofs.Arena.Consistency

/-!
# References are counted

Under `Retention.counted` a reference is taken with each hand-over and given back with each
successful release. What the arena stores for a handle is the difference: the number of hand-overs
that gave the handle, less the number of its releases that succeeded (`Consistent.refs_serveAll`),
where a handle that names nothing counts as one without references. So a release can be told from
the history of the run alone, and it touches the entry of its own handle only (`AgreesOff`).

One step is `Consistent.refs_put`, `Consistent.refs_release` and, over requests,
`Consistent.refs_serve`. Main statement: `release_by_tally`.
-/

namespace CellMarshal.Arena

variable {a b : Arena}

/-! ## The references of a handle -/

/-- The references of a handle that is held are those of its entry. -/
theorem refs_of_some {h : Handle} {s : Slot} (hs : a.byHandle.find? h = some s) :
    a.refs h = s.refs := by
  simp [refs, hs]

/-- A handle that is not held has no references. -/
theorem refs_of_none {h : Handle} (hs : a.byHandle.find? h = none) : a.refs h = 0 := by
  simp [refs, hs]

/-- A handle is held exactly if it has an entry. -/
theorem holds_iff {h : Handle} : a.holds h = true ↔ ∃ s, a.byHandle.find? h = some s :=
  Option.isSome_iff_exists

/-- A handle is not held exactly if it has no entry. -/
theorem holds_eq_false_iff {h : Handle} : a.holds h = false ↔ a.byHandle.find? h = none :=
  Option.isSome_eq_false_iff.trans Option.isNone_iff_eq_none

/-- A handle names an object exactly where it has a reference. -/
theorem Consistent.refs_pos_iff (hc : a.Consistent) {h : Handle} :
    0 < a.refs h ↔ a.holds h = true := by
  rw [holds_iff]
  constructor
  · intro hpos
    cases hs : a.byHandle.find? h with
    | none =>
      rw [refs_of_none hs] at hpos
      exact absurd hpos (Nat.lt_irrefl 0)
    | some s => exact ⟨s, rfl⟩
  · rintro ⟨s, hs⟩
    rw [refs_of_some hs]
    exact hc.refs_pos h s hs

/-! ## Taking a reference -/

/-- A hand-over adds one reference to the handle that it gives, and none to any other. -/
theorem Consistent.refs_put (hc : a.Consistent) (o : Object) (h : Handle) :
    (a.put o).2.refs h = a.refs h + if (a.put o).1 = h then 1 else 0 := by
  cases ho : a.handleOf? o with
  | none =>
    rw [put_of_new ho]
    by_cases hh : a.next = h
    · subst hh
      have hfree : a.refs a.next = 0 := refs_of_none hc.find?_next
      rw [if_pos rfl, hfree]
      simp only [refs, Table.find?_insert_self, Option.map_some, Option.getD_some]
    · rw [if_neg hh]
      simp only [refs, Table.find?_insert_of_ne _ _ (Ne.symm hh), Nat.add_zero]
  | some l =>
    rw [put_of_held ho]
    obtain ⟨s, hs, -⟩ := hc.handleOf?_eq_some_iff.1 ho
    by_cases hh : l = h
    · subst hh
      rw [if_pos rfl, refs_of_some hs]
      simp only [refs, Table.find?_modify_self, hs, Option.map_some, Option.getD_some, Slot.share]
    · rw [if_neg hh]
      simp only [refs, Table.find?_modify_of_ne _ _ (Ne.symm hh), Nat.add_zero]

/-! ## Giving a reference back -/

/-- Two arenas differ in the entry of one handle at most. -/
structure AgreesOff (h : Handle) (a b : Arena) : Prop where
  retention_eq : b.retention = a.retention
  next_eq : b.next = a.next
  byHandle_eq : ∀ l, l ≠ h → b.byHandle.find? l = a.byHandle.find? l
  byIdentity_eq : ∀ i, a.byIdentity.find? i ≠ some h →
    b.byIdentity.find? i = a.byIdentity.find? i

/-- Everything a release does under counting: the handle has a reference, and loses it; with the
last one its entry goes, and otherwise it keeps its object; no other entry changes. -/
theorem Consistent.release_spec (hc : a.Consistent) (hk : a.retention = .counted) {h : Handle}
    {gone : Bool} (hr : a.release h = .ok (gone, b)) :
    ∃ s, a.byHandle.find? h = some s ∧ AgreesOff h a b ∧
      ((gone = true ∧ s.refs = 1 ∧ b.byHandle.find? h = none) ∨
        (gone = false ∧ 1 < s.refs ∧
          b.byHandle.find? h = some { s with refs := s.refs - 1 })) := by
  obtain ⟨s, hs, ⟨hkeep, -⟩ | ⟨-, hlt, rfl, rfl⟩ | ⟨-, hle, rfl, rfl⟩⟩ := release_cases hr
  · rw [hk] at hkeep
    cases hkeep
  · refine ⟨s, hs, ⟨rfl, rfl, ?_, fun i _ => rfl⟩, Or.inr ⟨rfl, hlt, ?_⟩⟩
    · intro l hl
      exact Table.find?_insert_of_ne _ _ hl
    · exact Table.find?_insert_self _ _ _
  · have hone : s.refs = 1 := Nat.le_antisymm hle (hc.refs_pos h s hs)
    refine ⟨s, hs, ⟨rfl, rfl, ?_, ?_⟩, Or.inl ⟨rfl, hone, Table.find?_erase_self _ _⟩⟩
    · intro l hl
      exact Table.find?_erase_of_ne _ hl
    · intro i hi
      have hne : i ≠ s.object.identity := by
        rintro rfl
        exact hi ((hc.inverse _ h).2 ⟨s, hs, rfl⟩)
      exact Table.find?_erase_of_ne _ hne

/-- A release takes one reference from its handle, and none from any other. -/
theorem Consistent.refs_release (hc : a.Consistent) (hk : a.retention = .counted) {h : Handle}
    {gone : Bool} (hr : a.release h = .ok (gone, b)) (l : Handle) :
    b.refs l + (if h = l then 1 else 0) = a.refs l := by
  obtain ⟨s, hs, hoff, hcase⟩ := hc.release_spec hk hr
  by_cases hl : h = l
  · subst hl
    rw [if_pos rfl, refs_of_some hs]
    obtain ⟨-, hone, hb⟩ | ⟨-, hlt, hb⟩ := hcase
    · rw [refs_of_none hb, hone]
    · rw [refs_of_some hb]
      exact Nat.sub_add_cancel (Nat.le_of_lt hlt)
  · rw [if_neg hl, Nat.add_zero]
    simp only [refs, hoff.byHandle_eq l (Ne.symm hl)]

/-- A reference can be given back exactly where there is one. -/
theorem Consistent.release_ok_iff (hc : a.Consistent) (hk : a.retention = .counted) {h : Handle} :
    (∃ gone b, a.release h = .ok (gone, b)) ↔ 0 < a.refs h := by
  constructor
  · rintro ⟨gone, b, hr⟩
    obtain ⟨s, hs, -⟩ := hc.release_spec hk hr
    rw [refs_of_some hs]
    exact hc.refs_pos h s hs
  · intro hpos
    obtain ⟨s, hs⟩ := holds_iff.1 (hc.refs_pos_iff.1 hpos)
    rcases Nat.lt_or_ge 1 s.refs with hlt | hle
    · exact ⟨_, _, release_of_shared hs hk hlt⟩
    · exact ⟨_, _, release_of_last hs hk hle⟩

/-- The release of the only reference, and no other, tells that the object has left. -/
theorem Consistent.release_gone_iff (hc : a.Consistent) (hk : a.retention = .counted)
    {h : Handle} : (∃ b, a.release h = .ok (true, b)) ↔ a.refs h = 1 := by
  constructor
  · rintro ⟨b, hr⟩
    obtain ⟨s, hs, -, ⟨-, hone, -⟩ | ⟨hgone, -⟩⟩ := hc.release_spec hk hr
    · rw [refs_of_some hs, hone]
    · cases hgone
  · intro hone
    obtain ⟨s, hs⟩ := holds_iff.1 (hc.refs_pos_iff.1 (hone ▸ Nat.one_pos))
    rw [refs_of_some hs] at hone
    exact ⟨_, release_of_last hs hk (Nat.le_of_eq hone)⟩

/-! ## The history of a run -/

/-- Whether a request handed an object over and was answered with the handle. -/
def gives (h : Handle) : Request × Reply → Bool
  | (.put _, .handle l) | (.handOver _, .cell (.reference l _)) => l == h
  | _ => false

/-- Whether a request gave a reference to the handle back, with success. -/
def takes (h : Handle) : Request × Reply → Bool
  | (.release l, .released (.ok _)) => l == h
  | _ => false

/-- A put does not change what becomes of unused objects. -/
theorem retention_put (a : Arena) (o : Object) : (a.put o).2.retention = a.retention := by
  unfold put
  split <;> rfl

/-- A release does not change what becomes of unused objects. -/
theorem retention_release {h : Handle} {gone : Bool} (hr : a.release h = .ok (gone, b)) :
    b.retention = a.retention := by
  obtain ⟨s, -, ⟨-, -, rfl⟩ | ⟨-, -, -, rfl⟩ | ⟨-, -, -, rfl⟩⟩ := release_cases hr
  all_goals rfl

/-- No request changes when objects leave. -/
theorem retention_serve (a : Arena) (q : Request) : (a.serve q).2.retention = a.retention :=
  serve_cases (P := fun b => b.retention = a.retention) q rfl (fun o _ => retention_put a o)
    fun _ _ _ hr => retention_release hr

/-- No run changes what becomes of unused objects. -/
theorem retention_serveAll (a : Arena) (qs : List Request) :
    (a.serveAll qs).2.retention = a.retention :=
  serveAll_induction (P := fun b => b.retention = a.retention)
    (fun b q hb => (retention_serve b q).trans hb) rfl qs

/-- One request: the references of a handle rise with a hand-over that gives it, fall with a
release of it, and stay as they are otherwise. -/
theorem Consistent.refs_serve (hc : a.Consistent) (hk : a.retention = .counted) (q : Request)
    (h : Handle) :
    (a.serve q).2.refs h + (if takes h (q, (a.serve q).1) then 1 else 0) =
      a.refs h + if gives h (q, (a.serve q).1) then 1 else 0 := by
  cases q with
  | put o =>
    have hput := hc.refs_put o h
    simpa only [Arena.serve, gives, takes, beq_iff_eq, Bool.false_eq_true, if_false,
      Nat.add_zero] using hput
  | handOver o =>
    have hput := hc.refs_put o h
    simpa only [Arena.serve, handOver, gives, takes, beq_iff_eq, Bool.false_eq_true, if_false,
      Nat.add_zero] using hput
  | release l =>
    cases hr : a.release l with
    | error f =>
      rw [serve_release_of_error hr]
      rfl
    | ok answer =>
      obtain ⟨gone, b⟩ := answer
      have hback := hc.refs_release hk hr h
      rw [serve_release_of_ok hr]
      simpa only [gives, takes, beq_iff_eq, Bool.false_eq_true, if_false, Nat.add_zero] using hback
  | get l => rfl
  | find l => rfl
  | handleOf o => rfl
  | holds l => rfl

/-- **The count is the history.** After any run, the references of a handle and the releases of it
that succeeded come to the references that it had and the hand-overs that gave it. -/
theorem Consistent.refs_serveAll (hc : a.Consistent) (hk : a.retention = .counted)
    (qs : List Request) (h : Handle) :
    (a.serveAll qs).2.refs h + (qs.zip (a.serveAll qs).1).countP (takes h) =
      a.refs h + (qs.zip (a.serveAll qs).1).countP (gives h) := by
  induction qs generalizing a with
  | nil => rfl
  | cons q qs ih =>
    have hstep := hc.refs_serve hk q h
    have hrest := ih (Consistent.serve hc q) ((retention_serve a q).trans hk)
    simp only [Arena.serveAll, List.zip_cons_cons, List.countP_cons]
    omega

/-! ## Releases after every run -/

/-- **A release can be told from the history of the run.** Let `given` be the number of hand-overs
of the run that gave the handle, and `taken` the number of its releases that succeeded. Where
references are counted, a further release succeeds exactly while more were given than taken, and
tells that the object left exactly where it makes the numbers equal; then the entry goes, otherwise
it keeps its object with one reference less, and no other entry, nor the counter, changes. Where
nothing ever goes, the release of a handle that names an object changes nothing. The release of a
handle that names none fails, and leaves the arena as it is. -/
theorem release_by_tally (retention : Retention) (qs : List Request) (h : Handle) :
    let ran := ({ retention := retention } : Arena).serveAll qs
    let given := (qs.zip ran.1).countP (gives h)
    let taken := (qs.zip ran.1).countP (takes h)
    (retention = .counted →
      ((∃ gone b, ran.2.release h = .ok (gone, b)) ↔ taken < given) ∧
      ((∃ b, ran.2.release h = .ok (true, b)) ↔ given = taken + 1) ∧
      ∀ gone b, ran.2.release h = .ok (gone, b) →
        AgreesOff h ran.2 b ∧
        ((gone = true ∧ b.byHandle.find? h = none) ∨
          (gone = false ∧ ∃ s, ran.2.byHandle.find? h = some s ∧
            b.byHandle.find? h = some { s with refs := s.refs - 1 }))) ∧
    (retention = .keep → ran.2.holds h = true → ran.2.release h = .ok (false, ran.2)) ∧
    (ran.2.holds h = false →
      ran.2.release h = .error (.invalidHandle h) ∧
      ran.2.serve (.release h) = (.released (.error (.invalidHandle h)), ran.2)) := by
  intro ran given taken
  have hstart := consistent_empty retention
  have hc : ran.2.Consistent := hstart.serveAll qs
  have hret : ran.2.retention = retention := retention_serveAll _ qs
  refine ⟨fun hcounted => ?_, fun hkeep hh => ?_, fun hh => ?_⟩
  · have hk : ran.2.retention = .counted := hret.trans hcounted
    have htally : ran.2.refs h + taken = 0 + given := hstart.refs_serveAll hcounted qs h
    refine ⟨?_, ?_, fun gone b hr => ?_⟩
    · rw [hc.release_ok_iff hk]
      omega
    · rw [hc.release_gone_iff hk]
      omega
    · obtain ⟨s, hs, hoff, ⟨hgone, -, hb⟩ | ⟨hgone, -, hb⟩⟩ := hc.release_spec hk hr
      · exact ⟨hoff, Or.inl ⟨hgone, hb⟩⟩
      · exact ⟨hoff, Or.inr ⟨hgone, s, hs, hb⟩⟩
  · obtain ⟨s, hs⟩ := holds_iff.1 hh
    exact release_of_keep hs (hret.trans hkeep)
  · have hr := release_of_unknown (holds_eq_false_iff.1 hh)
    exact ⟨hr, serve_release_of_error hr⟩

/-- An object handed over twice, given back twice and handed over again: its first handle is spent,
and one release of its second handle is left, which is the last. -/
theorem release_by_tally_renewed :
    let curve : Object := { identity := .made 7, classId := { name := "Curve" }, content := none }
    let qs : List Request :=
      [.put curve, .handOver curve, .release 1, .release 1, .put curve]
    let ran := ({ retention := .counted } : Arena).serveAll qs
    (qs.zip ran.1).countP (gives 1) = 2 ∧ (qs.zip ran.1).countP (takes 1) = 2 ∧
      (¬ ∃ gone b, ran.2.release 1 = .ok (gone, b)) ∧ ∃ b, ran.2.release 2 = .ok (true, b) := by
  intro curve qs ran
  refine ⟨rfl, rfl, ?_, ?_⟩
  · intro hr
    have hlt := ((release_by_tally .counted qs 1).1 rfl).1.1 hr
    exact absurd hlt (by decide)
  · exact ((release_by_tally .counted qs 2).1 rfl).2.1.2 rfl

end CellMarshal.Arena
