import CellMarshal.Proofs.Arena.Tally

/-!
# What a handle stands for

A handle that was given for an object names that object or nothing, at every later point, and once
it names nothing it never names anything again: the counter has passed it, and only the counter
gives new handles. `StandsFor` says this of a handle along a future, a family of arenas indexed by
what has been asked for until then; the future may be a run of requests to an arena, or any other
run whose steps come down to such requests (`StandsFor.along`).

Main statements: `Consistent.get?_serveAll` (below the counter a run takes objects away, and puts
none), `Consistent.standsFor` and `Consistent.answerStands` (a handle stands for the object it was
given for).
-/

namespace CellMarshal.Arena

variable {a b : Arena}

/-! ## Handles below the counter -/

/-- A handle that names an object lies below the counter. -/
theorem Consistent.lt_next_of_get? (hc : a.Consistent) {h : Handle} {o : Object}
    (ho : a.get? h = some o) : h < a.next := by
  obtain ⟨s, hs, -⟩ := Option.map_eq_some_iff.1 ho
  exact (hc.handle_mem h s hs).2

/-- A hand-over changes nothing of what the handles below the counter name. -/
theorem get?_put {h : Handle} (hlt : h < a.next) (o : Object) :
    (a.put o).2.get? h = a.get? h := by
  cases ho : a.handleOf? o with
  | none =>
    rw [put_of_new ho]
    simp only [get?, Table.find?_insert_of_ne _ _ (Nat.ne_of_lt hlt)]
  | some l =>
    rw [put_of_held ho]
    by_cases hl : h = l
    · subst hl
      simp only [get?, Table.find?_modify_self, Option.map_map]
      rfl
    · simp only [get?, Table.find?_modify_of_ne _ _ hl]

/-- A release takes an object away or leaves it under its handle. -/
theorem get?_release {h : Handle} {gone : Bool} (hr : a.release h = .ok (gone, b)) (l : Handle) :
    b.get? l = a.get? l ∨ b.get? l = none := by
  obtain ⟨s, hs, ⟨-, -, rfl⟩ | ⟨-, -, -, rfl⟩ | ⟨-, -, -, rfl⟩⟩ := release_cases hr
  · exact Or.inl rfl
  · left
    simp only [get?, Table.find?_insert]
    split
    · rename_i hl
      rw [hl, hs]
      rfl
    · rfl
  · simp only [get?, Table.find?_erase]
    split
    · exact Or.inr rfl
    · exact Or.inl rfl

/-- One request, below the counter: an object may go, and none comes. -/
theorem get?_serve {h : Handle} (hlt : h < a.next) (q : Request) :
    (a.serve q).2.get? h = a.get? h ∨ (a.serve q).2.get? h = none :=
  serve_cases (P := fun b => b.get? h = a.get? h ∨ b.get? h = none) q (Or.inl rfl)
    (fun o _ => Or.inl (get?_put hlt o)) fun _ _ _ hr => get?_release hr h

/-- Where nothing ever goes, none goes. -/
theorem get?_serve_of_keep {h : Handle} (hlt : h < a.next) (hk : a.retention = .keep)
    (q : Request) : (a.serve q).2.get? h = a.get? h := by
  refine serve_cases (P := fun b => b.get? h = a.get? h) q rfl (fun o _ => get?_put hlt o) ?_
  intro l gone b hr
  obtain ⟨s, -, ⟨-, -, rfl⟩ | ⟨hcounted, -⟩ | ⟨hcounted, -⟩⟩ := release_cases hr
  · rfl
  all_goals
    rw [hk] at hcounted
    cases hcounted

/-- **A run, below the counter:** an object may go, and none comes. -/
theorem get?_serveAll {h : Handle} (hlt : h < a.next) (qs : List Request) :
    (a.serveAll qs).2.get? h = a.get? h ∨ (a.serveAll qs).2.get? h = none := by
  induction qs generalizing a with
  | nil => exact Or.inl rfl
  | cons q qs ih =>
    have hrest := ih (Nat.lt_of_lt_of_le hlt (serve_next_le a q))
    rcases hrest with hsame | hgone
    · rcases get?_serve hlt q with hstep | hstep
      · exact Or.inl (hsame.trans hstep)
      · exact Or.inr (hsame.trans hstep)
    · exact Or.inr hgone

/-- Where nothing ever goes, a handle that was counted out names the same thing after any run. -/
theorem get?_serveAll_of_keep {h : Handle} (hlt : h < a.next) (hk : a.retention = .keep)
    (qs : List Request) : (a.serveAll qs).2.get? h = a.get? h := by
  induction qs generalizing a with
  | nil => rfl
  | cons q qs ih =>
    have hrest := ih (Nat.lt_of_lt_of_le hlt (serve_next_le a q)) ((retention_serve a q).trans hk)
    exact hrest.trans (get?_serve_of_keep hlt hk q)

/-! ## Futures -/

/-- **What a handle stands for along a future.** At every later point the handle names the object
or nothing; once it names nothing, it never names anything again; and where nothing ever goes, it
names the object. -/
structure StandsFor {ρ : Type} (future : List ρ → Arena) (h : Handle) (o : Object) : Prop where
  object_or_gone : ∀ later,
    (future later).get h = .ok o ∨ (future later).get h = .error (.invalidHandle h)
  gone_for_ever : ∀ later more, (future later).get h = .error (.invalidHandle h) →
    (future (later ++ more)).get h = .error (.invalidHandle h)
  object_of_keep : ∀ later, (future later).retention = .keep → (future later).get h = .ok o

/-- A handle that fails names nothing. -/
theorem get?_eq_none_of_get {h : Handle} {f : Failure} (hg : a.get h = .error f) :
    a.get? h = none := by
  cases ho : a.get? h with
  | none => rfl
  | some o =>
    rw [get_of_some ho] at hg
    cases hg

/-- A handle that succeeds names the object that it gives. -/
theorem get?_of_get {h : Handle} {o : Object} (hg : a.get h = .ok o) : a.get? h = some o := by
  cases ho : a.get? h with
  | some p =>
    rw [get_of_some ho] at hg
    cases hg
    rfl
  | none =>
    rw [get_of_none ho] at hg
    cases hg

/-- A handle that names an object stands for it from then on. -/
theorem Consistent.standsFor (hc : a.Consistent) {h : Handle} {o : Object}
    (ho : a.get? h = some o) : StandsFor (fun rs => (a.serveAll rs).2) h o where
  object_or_gone later := by
    rcases get?_serveAll (hc.lt_next_of_get? ho) later with hsame | hgone
    · exact Or.inl (get_of_some (hsame.trans ho))
    · exact Or.inr (get_of_none hgone)
  gone_for_ever later more hg := by
    have hlt : h < (a.serveAll later).2.next :=
      Nat.lt_of_lt_of_le (hc.lt_next_of_get? ho) (serveAll_next_le a later)
    have hnone := get?_eq_none_of_get hg
    simp only [serveAll_append]
    rcases get?_serveAll hlt more with hsame | hgone
    · exact get_of_none (hsame.trans hnone)
    · exact get_of_none hgone
  object_of_keep later hk := by
    have hkeep : a.retention = .keep := (retention_serveAll a later).symm.trans hk
    exact get_of_some ((get?_serveAll_of_keep (hc.lt_next_of_get? ho) hkeep later).trans ho)

/-- A future whose points are reached by requests, each point from those before it, inherits what a
handle stands for. -/
theorem StandsFor.along {ρ : Type} {future : List ρ → Arena} {h : Handle} {o : Object}
    (hs : StandsFor (fun rs => (a.serveAll rs).2) h o)
    (hf : ∀ later, ∃ qs, future later = (a.serveAll qs).2 ∧
      ∀ more, ∃ rs, future (later ++ more) = (a.serveAll (qs ++ rs)).2) :
    StandsFor future h o where
  object_or_gone later := by
    obtain ⟨qs, hqs, -⟩ := hf later
    rw [hqs]
    exact hs.object_or_gone qs
  gone_for_ever later more hg := by
    obtain ⟨qs, hqs, hmore⟩ := hf later
    obtain ⟨rs, hrs⟩ := hmore more
    rw [hqs] at hg
    rw [hrs]
    exact hs.gone_for_ever qs rs hg
  object_of_keep later hk := by
    obtain ⟨qs, hqs, -⟩ := hf later
    rw [hqs] at hk ⊢
    exact hs.object_of_keep qs hk

/-! ## Handles that are given for an object -/

/-- The object that a request hands over. -/
def Request.object? : Request → Option Object
  | put o | handOver o => some o
  | _ => none

/-- No other object is held at the address of `o`. A held object keeps its address, so an object
that exists beside the held ones is always admitted. -/
def Admits (a : Arena) (o : Object) : Prop :=
  ∀ h s, a.byHandle.find? h = some s → s.object.identity = o.identity → s.object = o

/-- A request that hands an object over and gives a handle puts the object under that handle. -/
theorem put_of_object? {q : Request} {o : Object} {h : Handle} (hq : q.object? = some o)
    (hr : (a.serve q).1.handle? = some h) : (a.put o).1 = h ∧ (a.serve q).2 = (a.put o).2 := by
  cases q with
  | put p =>
    cases hq
    cases hr
    exact ⟨rfl, rfl⟩
  | handOver p =>
    cases hq
    cases hr
    exact ⟨rfl, rfl⟩
  | _ => cases hq

/-- After a hand-over the handle names the object: the very one, unless another is held at its
address. -/
theorem Consistent.exists_get?_put (hc : a.Consistent) (o : Object) :
    ∃ held, (a.put o).2.get? (a.put o).1 = some held ∧ held.identity = o.identity ∧
      (a.Admits o → held = o) := by
  cases ho : a.handleOf? o with
  | none =>
    rw [put_of_new ho]
    refine ⟨o, ?_, rfl, fun _ => rfl⟩
    simp only [get?, Table.find?_insert_self, Option.map_some]
  | some l =>
    rw [put_of_held ho]
    obtain ⟨s, hs, hi⟩ := hc.handleOf?_eq_some_iff.1 ho
    refine ⟨s.object, ?_, hi, fun hadmits => hadmits l s hs hi⟩
    simp only [get?, Table.find?_modify_self, hs, Option.map_some, Slot.share]

/-- Where the request hands an object over and is answered with a handle, the handle stands for the
object along what comes after: for the very one, unless another is held at its address. -/
def AnswerStands {ρ : Type} (a : Arena) (q : Request) (future : List ρ → Arena) : Prop :=
  ∀ o h, q.object? = some o → (a.serve q).1.handle? = some h →
    ∃ held, held.identity = o.identity ∧ (a.Admits o → held = o) ∧ StandsFor future h held

/-- **A handle stands for the object it was given for**, from the request that gave it on. -/
theorem Consistent.answerStands (hc : a.Consistent) (q : Request) :
    a.AnswerStands q fun later => ((a.serve q).2.serveAll later).2 := by
  intro o h hq hr
  obtain ⟨rfl, hserve⟩ := put_of_object? hq hr
  obtain ⟨held, hheld, hidentity, hadmits⟩ := hc.exists_get?_put o
  rw [hserve]
  exact ⟨held, hidentity, hadmits, (hc.put o).standsFor hheld⟩

end CellMarshal.Arena
