import CellMarshal.Proofs.Gateway.Calls
import CellMarshal.Proofs.Traversal

/-!
# What a handle stands for while a gateway runs

A gateway is asked for calls, for classes to be registered and taken out, for references to be given
back, and its arena can be asked directly. `Request` lists these, `Gateway.step` is what each leaves
of the gateway, and `Gateway.run` takes them one after the other. A step reaches the arena by the
requests that `Asks` gives for it, and in no other way (`exists_asks`): by hand-overs for a call, by
a release for a release, and not at all otherwise. So a run of the gateway is a run of its arena
(`exists_serveAll_run`), and a handle stands along the one for what it stands for along the other.
Main statement: `handle_standsFor`.
-/

namespace CellMarshal.Gateway

variable {σ : Type}

/-! ## Runs -/

/-- What can be asked of a gateway. -/
inductive Request (σ : Type) where
  | perform (op : Operation)
  | performOrError (op : Operation)
  | register (c : ClassDef σ)
  | unregister (name : String)
  | release (h : Handle)
  | arena (q : Arena.Request)

/-- What a request leaves of the gateway. A class or a release that is refused changes nothing; a
call may have handed objects over before it failed. -/
def step (g : Gateway σ) : Request σ → Gateway σ
  | .perform op => (g.perform op).2
  | .performOrError op => (g.shown (g.perform op)).2
  | .register c =>
    match g.register c with
    | .ok g' => g'
    | .error _ => g
  | .unregister name => { g with catalog := g.catalog.remove name }
  | .release h =>
    match g.release h with
    | .ok (_, g') => g'
    | .error _ => g
  | .arena q => { g with host := { g.host with arena := (g.host.arena.serve q).2 } }

/-- Takes requests one after the other. -/
def run (g : Gateway σ) (qs : List (Request σ)) : Gateway σ :=
  qs.foldl step g

/-- Two runs one after the other are one run. -/
theorem run_append (g : Gateway σ) (qs rs : List (Request σ)) :
    g.run (qs ++ rs) = (g.run qs).run rs :=
  List.foldl_append

/-! ## What reaches the arena -/

/-- What a request to the gateway may ask of its arena. -/
inductive Asks : Request σ → List Arena.Request → Prop where
  | perform (op : Operation) (os : List Object) : Asks (.perform op) (os.map .put)
  | performOrError (op : Operation) (os : List Object) : Asks (.performOrError op) (os.map .put)
  | register (c : ClassDef σ) : Asks (.register c) []
  | unregister (name : String) : Asks (.unregister name) []
  | release (h : Handle) : Asks (.release h) [.release h]
  | arena (q : Arena.Request) : Asks (.arena q) [q]

/-- Showing a result leaves the gateway that it came with. -/
theorem shown_snd (g : Gateway σ) (result : Except Abort Cell × Gateway σ) :
    (g.shown result).2 = result.2 := by
  unfold shown
  split
  · rfl
  · rfl

/-- A call is a run of hand-overs. -/
theorem exists_put_perform (g : Gateway σ) (op : Operation) :
    ∃ os : List Object,
      (g.perform op).2.host.arena = (g.host.arena.serveAll (os.map .put)).2 := by
  obtain ⟨os, hos⟩ := g.exists_putAll_perform op
  exact ⟨os, by rw [hos, Arena.serveAll_map_put]⟩

/-- Registering a class leaves the host's side as it is. -/
theorem host_of_register {g g' : Gateway σ} {c : ClassDef σ} (hr : g.register c = .ok g') :
    g'.host = g.host := by
  obtain ⟨catalog, -, rfl⟩ := map_eq_ok_iff.1 hr
  rfl

/-- Registering a class does not concern the arena. -/
theorem arena_step_register (g : Gateway σ) (c : ClassDef σ) :
    (g.step (.register c)).host.arena = g.host.arena := by
  cases hr : g.register c with
  | error f => simp only [step, hr]
  | ok g' => simp only [step, hr, host_of_register hr]

/-- A release asks the arena for one and for nothing else. -/
theorem arena_step_release (g : Gateway σ) (h : Handle) :
    (g.step (.release h)).host.arena = (g.host.arena.serve (.release h)).2 := by
  cases hr : g.host.arena.release h with
  | error f => simp only [step, release_of_error hr, Arena.serve_release_of_error hr]
  | ok answer =>
    obtain ⟨gone, b⟩ := answer
    simp only [step, release, hr, Except.map, Arena.serve_release_of_ok hr]

/-- **One step, seen from the arena.** -/
theorem exists_asks (g : Gateway σ) (q : Request σ) :
    ∃ rs, Asks q rs ∧ (g.step q).host.arena = (g.host.arena.serveAll rs).2 := by
  cases q with
  | perform op =>
    obtain ⟨os, hos⟩ := g.exists_put_perform op
    exact ⟨_, .perform op os, hos⟩
  | performOrError op =>
    obtain ⟨os, hos⟩ := g.exists_put_perform op
    refine ⟨_, .performOrError op os, ?_⟩
    rw [step, shown_snd]
    exact hos
  | register c => exact ⟨_, .register c, g.arena_step_register c⟩
  | unregister name => exact ⟨_, .unregister name, rfl⟩
  | release h => exact ⟨_, .release h, g.arena_step_release h⟩
  | arena q => exact ⟨_, .arena q, rfl⟩

/-- **A run, seen from the arena.** -/
theorem exists_serveAll_run (g : Gateway σ) (qs : List (Request σ)) :
    ∃ rs, (g.run qs).host.arena = (g.host.arena.serveAll rs).2 := by
  induction qs generalizing g with
  | nil => exact ⟨[], rfl⟩
  | cons q qs ih =>
    obtain ⟨rs, -, hstep⟩ := g.exists_asks q
    obtain ⟨ss, hrest⟩ := ih (g.step q)
    refine ⟨rs ++ ss, ?_⟩
    rw [Arena.serveAll_append, ← hstep]
    exact hrest

/-- The arena of a gateway stays consistent, whatever is asked. -/
theorem consistent_run {g : Gateway σ} (hg : g.host.arena.Consistent) (qs : List (Request σ)) :
    (g.run qs).host.arena.Consistent := by
  obtain ⟨rs, hrs⟩ := g.exists_serveAll_run qs
  rw [hrs]
  exact hg.serveAll rs

/-! ## Futures of a gateway -/

/-- What a handle stands for along the runs of an arena, it stands for along the runs of a gateway
whose arena has come out of it by further requests. -/
theorem standsFor_run {g : Gateway σ} {a : Arena} {h : Handle} {o : Object}
    {rs : List Arena.Request} (hg : g.host.arena = (a.serveAll rs).2)
    (hs : Arena.StandsFor (fun later => (a.serveAll later).2) h o) :
    Arena.StandsFor (fun later => (g.run later).host.arena) h o := by
  refine hs.along fun later => ?_
  obtain ⟨qs, hqs⟩ := g.exists_serveAll_run later
  have hlater : (g.run later).host.arena = (a.serveAll (rs ++ qs)).2 := by
    rw [Arena.serveAll_append, ← hg]
    exact hqs
  refine ⟨rs ++ qs, hlater, fun more => ?_⟩
  obtain ⟨ss, hss⟩ := (g.run later).exists_serveAll_run more
  refine ⟨ss, ?_⟩
  rw [run_append, hss, hlater, Arena.serveAll_append a (rs ++ qs)]

/-- Every hand-over among the requests that a step comes down to gives a handle that stands for its
object, in all that is asked of the gateway after the step. -/
theorem answerStands_step {g : Gateway σ} (hg : g.host.arena.Consistent) {q : Request σ}
    {rs₁ rs₂ : List Arena.Request} {r : Arena.Request}
    (hstep : (g.step q).host.arena = (g.host.arena.serveAll (rs₁ ++ r :: rs₂)).2) :
    (g.host.arena.serveAll rs₁).2.AnswerStands r
      fun later => ((g.step q).run later).host.arena := by
  intro o h hr hgiven
  have ha : (g.host.arena.serveAll rs₁).2.Consistent := hg.serveAll rs₁
  obtain ⟨held, hidentity, hadmits, hstands⟩ := ha.answerStands r o h hr hgiven
  have hafter : (g.step q).host.arena =
      (((g.host.arena.serveAll rs₁).2.serve r).2.serveAll rs₂).2 := by
    rw [hstep, Arena.serveAll_append]
    rfl
  exact ⟨held, hidentity, hadmits, standsFor_run hafter hstands⟩

/-- **A handle stands for the object that it was given for.** Let a hand-over be answered with a
handle, at any point of a run under either retention. Then at every later point of every future the
handle names the object or nothing, never anything again once it names nothing, and the object
always where nothing ever goes.

The first part is about an arena that is asked directly. The others are about a gateway: whatever a
handle names at some point of a run, it stands for from then on; and each step comes down to
requests to the arena, of the kinds that `Asks` allows, in which every hand-over is answered with
such a handle. -/
theorem handle_standsFor (retention : Retention) :
    (∀ (before : List Arena.Request) (q : Arena.Request),
      let a := (({ retention := retention } : Arena).serveAll before).2
      a.AnswerStands q fun later => ((a.serve q).2.serveAll later).2) ∧
    (∀ (g : Gateway σ) (before : List (Request σ)), g.host.arena = { retention := retention } →
      (∀ h o, (g.run before).host.arena.get h = .ok o →
        Arena.StandsFor (fun later => (g.run (before ++ later)).host.arena) h o) ∧
      ∀ q, ∃ rs, Asks q rs ∧
        (g.run (before ++ [q])).host.arena = ((g.run before).host.arena.serveAll rs).2 ∧
        ∀ rs₁ r rs₂, rs = rs₁ ++ r :: rs₂ →
          ((g.run before).host.arena.serveAll rs₁).2.AnswerStands r
            fun later => (g.run (before ++ q :: later)).host.arena) := by
  have hstart : ({ retention := retention } : Arena).Consistent := Arena.consistent_empty retention
  constructor
  · intro before q a
    have ha : a.Consistent := hstart.serveAll before
    exact ha.answerStands q
  · intro g before hg
    have hnow : (g.run before).host.arena.Consistent := consistent_run (hg ▸ hstart) before
    simp only [run_append]
    refine ⟨fun h o ho => ?_, fun q => ?_⟩
    · have hstands := hnow.standsFor (Arena.get?_of_get ho)
      have hself : (g.run before).host.arena = ((g.run before).host.arena.serveAll []).2 := rfl
      exact standsFor_run hself hstands
    · obtain ⟨rs, hasks, hstep⟩ := (g.run before).exists_asks q
      refine ⟨rs, hasks, hstep, ?_⟩
      rintro rs₁ r rs₂ rfl
      exact answerStands_step hnow hstep

/-- An object that a method gives, and whose reference is given back: the handle names nothing from
then on, although the method gives the object again and another object comes to be held at its
address. -/
theorem handle_standsFor_recycled :
    let curve : Object := { identity := .made 7, classId := { name := "Curve" }, content := none }
    let bond : Object := { identity := .made 7, classId := { name := "Bond" }, content := none }
    let latest : Member Unit :=
      { name := "latest", params := [], result := .plain (.named "Curve"), isStatic := true
        body := fun _ _ => pure (.value (.object curve)) }
    let book : ClassDef Unit :=
      { classId := { name := "Book" }, constructors := [], methods := [latest], fields := [] }
    let g : Gateway Unit :=
      { withSettings { retention := .counted } () with
        catalog := { classes := ⟨[("Book", book)]⟩ } }
    let give : Request Unit := .perform (.call "Book" "latest" [])
    (g.run [give]).host.arena.get 1 = .ok curve ∧
      (g.run [give, .release 1, give]).host.arena.get 2 = .ok curve ∧
      (g.run [give, .release 1, give]).host.arena.get 1 = .error (.invalidHandle 1) ∧
      (({ retention := .counted } : Arena).serveAll
        [.put curve, .release 1, .put bond]).2.get 1 = .error (.invalidHandle 1) := by
  intro curve bond latest book g give
  obtain ⟨harena, hgateway⟩ := handle_standsFor (σ := Unit) .counted
  have hnamed : (g.run [give]).host.arena.get 1 = .ok curve := rfl
  refine ⟨hnamed, rfl, ?_, ?_⟩
  · have hstands := (hgateway g [give] rfl).1 1 curve hnamed
    exact hstands.gone_for_ever [.release 1] [give] rfl
  · obtain ⟨held, -, -, hstands⟩ := harena [] (.put curve) curve 1 rfl rfl
    exact hstands.gone_for_ever [.release 1] [.put bond] rfl

end CellMarshal.Gateway
