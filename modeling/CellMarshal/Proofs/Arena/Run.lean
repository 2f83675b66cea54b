import CellMarshal.Arena

/-!
# Runs of an arena

An arena serves requests in whatever order they come. `Request` lists what can be asked of it,
`Arena.serve` answers one request and leaves an arena, and `Arena.serveAll` answers requests one
after the other. Objects and handles in requests are arbitrary: a request may carry an object at an
address that an object of an earlier request had.

Main statements: `serve_next_le`, `serveAll_next_le` (the counter never goes back) and
`serveAll_append` (a run can be cut at any point).
-/

namespace CellMarshal.Arena

/-! ## Requests and replies -/

/-- What can be asked of an arena. -/
inductive Request where
  | put (o : Object)
  | handOver (o : Object)
  | get (h : Handle)
  | find (h : Handle)
  | handleOf (o : Object)
  | holds (h : Handle)
  | release (h : Handle)

/-- What an arena answers. -/
inductive Reply where
  | handle (h : Handle)
  | cell (c : Cell)
  | object (o : Except Failure Object)
  | found (o : Option Object)
  | known (h : Option Handle)
  | held (b : Bool)
  | released (gone : Except Failure Bool)

/-- Whether a request hands an object over. -/
def Request.isPut : Request → Bool
  | put _ | handOver _ => true
  | _ => false

/-- The handle that a reply gives to the host. -/
def Reply.handle? : Reply → Option Handle
  | handle h | cell (.reference h _) | known (some h) => some h
  | _ => none

/-- The handles that some replies give to the host. -/
def handlesIn (replies : List Reply) : List Handle :=
  replies.filterMap Reply.handle?

/-! ## Serving -/

/-- Answers a request to give a reference back, which changes nothing where it fails. -/
def serveRelease (a : Arena) (h : Handle) : Reply × Arena :=
  match a.release h with
  | .ok (gone, b) => (.released (.ok gone), b)
  | .error f => (.released (.error f), a)

/-- Answers one request. -/
def serve (a : Arena) : Request → Reply × Arena
  | .put o => (.handle (a.put o).1, (a.put o).2)
  | .handOver o => (.cell (a.handOver o).1, (a.handOver o).2)
  | .get h => (.object (a.get h), a)
  | .find h => (.found (a.get? h), a)
  | .handleOf o => (.known (a.handleOf? o), a)
  | .holds h => (.held (a.holds h), a)
  | .release h => a.serveRelease h

/-- A release that succeeds is answered as it came out. -/
theorem serve_release_of_ok {a b : Arena} {h : Handle} {gone : Bool}
    (hr : a.release h = .ok (gone, b)) :
    a.serve (.release h) = (.released (.ok gone), b) := by
  simp only [serve, serveRelease, hr]

/-- A release that fails is answered with the failure, and leaves the arena. -/
theorem serve_release_of_error {a : Arena} {h : Handle} {f : Failure}
    (hr : a.release h = .error f) : a.serve (.release h) = (.released (.error f), a) := by
  simp only [serve, serveRelease, hr]

/-- Answers requests one after the other. -/
def serveAll : Arena → List Request → List Reply × Arena
  | a, [] => ([], a)
  | a, q :: qs => ((a.serve q).1 :: ((a.serve q).2.serveAll qs).1, ((a.serve q).2.serveAll qs).2)

/-- A run can be cut at any point. -/
theorem serveAll_append (a : Arena) (qs rs : List Request) :
    a.serveAll (qs ++ rs) =
      ((a.serveAll qs).1 ++ ((a.serveAll qs).2.serveAll rs).1,
        ((a.serveAll qs).2.serveAll rs).2) := by
  induction qs generalizing a with
  | nil => rfl
  | cons q qs ih =>
    rw [List.cons_append, serveAll, ih]
    rfl

/-! ## What one request does -/

/-- Everything a successful `release` can do: nothing under `Retention.keep`; otherwise one
reference less, or, where it was the last one, one entry less in both tables. -/
theorem release_cases {a b : Arena} {h : Handle} {gone : Bool} (hr : a.release h = .ok (gone, b)) :
    ∃ s, a.byHandle.find? h = some s ∧
      ((a.retention = .keep ∧ gone = false ∧ b = a) ∨
        (a.retention = .counted ∧ 1 < s.refs ∧ gone = false ∧
          b = { a with byHandle := a.byHandle.insert h { s with refs := s.refs - 1 } }) ∨
        (a.retention = .counted ∧ s.refs ≤ 1 ∧ gone = true ∧
          b = { a with
            byHandle := a.byHandle.erase h
            byIdentity := a.byIdentity.erase s.object.identity })) := by
  cases hs : a.byHandle.find? h with
  | none =>
    rw [release_of_unknown hs] at hr
    cases hr
  | some s =>
    refine ⟨s, rfl, ?_⟩
    cases hk : a.retention with
    | keep =>
      rw [release_of_keep hs hk] at hr
      cases hr
      exact Or.inl ⟨rfl, rfl, rfl⟩
    | counted =>
      rcases Nat.lt_or_ge 1 s.refs with hc | hc
      · rw [release_of_shared hs hk hc] at hr
        cases hr
        exact Or.inr (Or.inl ⟨rfl, hc, rfl, by rw [hk]⟩)
      · rw [release_of_last hs hk hc] at hr
        cases hr
        exact Or.inr (Or.inr ⟨rfl, hc, rfl, by rw [hk]⟩)

/-- What holds of every outcome of `put` and of `release`, and of an arena left as it was, holds of
the arena that any request leaves. -/
theorem serve_cases {P : Arena → Prop} {a : Arena} (q : Request) (same : P a)
    (put : ∀ o, q.isPut = true → P (a.put o).2)
    (release : ∀ h gone b, a.release h = .ok (gone, b) → P b) : P (a.serve q).2 := by
  cases q with
  | put o => exact put o rfl
  | handOver o => exact put o rfl
  | get h => exact same
  | find h => exact same
  | handleOf o => exact same
  | holds h => exact same
  | release h =>
    show P (a.serveRelease h).2
    unfold serveRelease
    split
    · rename_i gone b hr
      exact release h gone b hr
    · exact same

/-- The counter never goes back. -/
theorem serve_next_le (a : Arena) (q : Request) : a.next ≤ (a.serve q).2.next := by
  refine serve_cases (P := fun b => a.next ≤ b.next) q (Nat.le_refl _) (fun o _ => ?_) ?_
  · cases ho : a.handleOf? o with
    | none =>
      rw [put_of_new ho]
      exact Nat.le_succ _
    | some h =>
      exact Nat.le_of_eq (by rw [put_of_held ho])
  · intro h gone b hr
    obtain ⟨s, -, ⟨-, -, rfl⟩ | ⟨-, -, -, rfl⟩ | ⟨-, -, -, rfl⟩⟩ := release_cases hr
    all_goals exact Nat.le_refl _

/-! ## What a run does -/

/-- What each request keeps, a run keeps. -/
theorem serveAll_induction {P : Arena → Prop} (step : ∀ a q, P a → P (a.serve q).2) {a : Arena}
    (h : P a) (qs : List Request) : P (a.serveAll qs).2 := by
  induction qs generalizing a with
  | nil => exact h
  | cons q qs ih => exact ih (step a q h)

/-- The counter never goes back. -/
theorem serveAll_next_le (a : Arena) (qs : List Request) : a.next ≤ (a.serveAll qs).2.next :=
  serveAll_induction (P := fun b => a.next ≤ b.next)
    (fun b q h => Nat.le_trans h (serve_next_le b q)) (Nat.le_refl _) qs

end CellMarshal.Arena
