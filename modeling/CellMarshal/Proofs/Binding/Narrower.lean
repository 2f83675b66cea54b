import CellMarshal.Proofs.Binding.Choice
import CellMarshal.Proofs.Typing.Specificity

/-!
# Wider members after narrower ones

A member is wider than another where each of its parameters takes the one of the other at that
place. Of two members of fixed arity whose arguments score the same, the more specific one is
preferred, and the first of two that are as specific. Specificity counts the arguments of types and
assignability does not, so a wider member may rank above a narrower one, by what the arguments of
its types add and in no other way.

Main statements: `select_of_wider` (where they add no more than those of the narrower member, the
wider one has no effect on the choice if it is defined after the other) and
`exists_wider_preferred` (where they add more, it may be chosen in place of the other).
-/

namespace CellMarshal.Binder

open DeclType

variable {σ : Type} {b : Binder} {cls : ClassDef σ} {kinds : List CellKind} {m : Member σ}
  {bound : Binding σ} {members : List (Member σ)}

/-! ## The best of some members -/

/-- The better of two choices has no less merit than either of them. -/
theorem merit_le_of_better {x y : Option (Rank × Binding σ)} {z : Rank × Binding σ}
    (h : better x y = some z) :
    (∀ u ∈ x, u.1.merit ≤ z.1.merit) ∧ ∀ u ∈ y, u.1.merit ≤ z.1.merit := by
  rcases x with _ | x
  · cases h
    simp
  rcases y with _ | y
  · cases h
    simp
  simp only [Option.mem_some_iff, forall_eq']
  by_cases habove : y.1.above x.1 = true
  · rw [better, if_pos habove] at h
    cases h
    exact ⟨(Rank.above_iff_merit_lt.1 habove).le, le_rfl⟩
  · rw [better, if_neg habove] at h
    cases h
    exact ⟨le_rfl, not_lt.1 (mt Rank.above_iff_merit_lt.2 habove)⟩

/-- No member ranks above the best. -/
theorem merit_le_of_best {x : Rank × Binding σ} (hx : b.best cls members kinds = some x)
    (hm : m ∈ members) (hbind : b.bind? cls m kinds = some bound) :
    (rankOf m bound).merit ≤ x.1.merit := by
  induction members using List.reverseRecOn generalizing x with
  | nil => cases hm
  | append_singleton members m' ih =>
    rw [best_append_single] at hx
    obtain ⟨hbest, hlast⟩ := merit_le_of_better hx
    rcases List.mem_append.1 hm with hm | hm
    · rcases hy : b.best cls members kinds with _ | y
      · exact absurd (exists_bind?_iff.1 ⟨bound, hbind⟩) (best_eq_none_iff.1 hy m hm)
      · exact (ih hy hm).trans (hbest y hy)
    · cases List.mem_singleton.1 hm
      exact hlast (rankOf m bound, bound) (by rw [candidate, hbind]; rfl)

/-- The choice goes on among further members from the best of those before. -/
theorem best_append (b : Binder) (cls : ClassDef σ) (members more : List (Member σ))
    (kinds : List CellKind) :
    b.best cls (members ++ more) kinds =
      (more.map (b.candidate cls kinds)).foldl better (b.best cls members kinds) := by
  simp [best]

/-- A member that does not rank above one before it has no effect on the choice. -/
theorem best_of_merit_le {m' : Member σ} {bound' : Binding σ} (after : List (Member σ))
    (hm : m ∈ members) (hbind : b.bind? cls m kinds = some bound)
    (hbind' : b.bind? cls m' kinds = some bound')
    (hle : (rankOf m' bound').merit ≤ (rankOf m bound).merit) :
    b.best cls (members ++ m' :: after) kinds = b.best cls (members ++ after) kinds := by
  have hkept : b.best cls (members ++ [m']) kinds = b.best cls members kinds := by
    rcases hx : b.best cls members kinds with _ | x
    · exact absurd (exists_bind?_iff.1 ⟨bound, hbind⟩) (best_eq_none_iff.1 hx m hm)
    · have htop : ¬(rankOf m' bound').above x.1 = true :=
        mt Rank.above_iff_merit_lt.1 (hle.trans (merit_le_of_best hx hm hbind)).not_gt
      rw [best_append_single, hx, candidate, hbind', Option.map_some, better, if_neg htop]
  rw [List.append_cons, best_append, hkept, best_append]

/-! ## Wider members -/

variable {narrow wide : Member σ} {bn bw : Binding σ}

/-- Between members of fixed arity and equal scores, specificity alone decides. -/
theorem above_iff_of_score_eq (hn : narrow.isVariadic = false) (hw : wide.isVariadic = false)
    (hscore : bn.score = bw.score) :
    (rankOf wide bw).above (rankOf narrow bn) = true ↔
      specificityArgs narrow.params < specificityArgs wide.params := by
  simp [Rank.above, rankOf, hn, hw, hscore]

/-- **A wider member ranks above a narrower one by what the arguments of its types add** and in no
other way, for every registry, every class and all kinds of arguments.

Both are of fixed arity, bound for the same kinds, and of equal score, and each parameter of the
wider one takes the parameter of the narrower one at its place. The wider one ranks above the other
exactly if it is the more specific one, which it is at most by what the arguments of its parameters
add beyond those of the other's. Where they add no more, as where its parameters are classes without
arguments or arrays of these, it has no effect on the choice if it is defined after the other, so
that it is never chosen in place of the other. -/
theorem select_of_wider (b : Binder) (cls : ClassDef σ) (kinds : List CellKind)
    (hn : narrow.isVariadic = false) (hw : wide.isVariadic = false)
    (hbn : b.bind? cls narrow kinds = some bn) (hbw : b.bind? cls wide kinds = some bw)
    (hscore : bn.score = bw.score)
    (hwider : List.Forall₂ (fun t s => t.accepts s = true) wide.params narrow.params) :
    ((rankOf wide bw).above (rankOf narrow bn) = true ↔
        specificityArgs narrow.params < specificityArgs wide.params) ∧
      specificityArgs wide.params + (narrow.params.map argSpecificity).sum ≤
        specificityArgs narrow.params + (wide.params.map argSpecificity).sum ∧
      ((wide.params.map argSpecificity).sum ≤ (narrow.params.map argSpecificity).sum →
        (rankOf wide bw).above (rankOf narrow bn) = false ∧
          ∀ name before between after,
            b.select cls name (before ++ narrow :: between ++ wide :: after) kinds =
              b.select cls name (before ++ narrow :: between ++ after) kinds) := by
  have habove := above_iff_of_score_eq hn hw hscore
  have hadd := specificityArgs_add_le hwider
  refine ⟨habove, hadd, fun hargs => ?_⟩
  have hnot : ¬(rankOf wide bw).above (rankOf narrow bn) = true := by
    rw [habove]
    omega
  refine ⟨Bool.eq_false_iff.2 hnot, fun name before between after => ?_⟩
  have hmem : narrow ∈ before ++ narrow :: between := by simp
  have hle := not_lt.1 (mt Rank.above_iff_merit_lt.2 hnot)
  rw [select, select, best_of_merit_le after hmem hbn hbw hle]

/-- Two members that take a grid for each of two parameters: an array of doubles and a list of
texts, or any object and a collection of texts. Both score the same, the texts add the same to
either, and the second has no effect on the choice after the first. -/
theorem select_of_wider_fill :
    let fill (params : List DeclType) : Member Unit :=
      { name := "fill"
        params := params
        result := .void
        isStatic := true
        body := fun _ _ => pure (.value .null) }
    let texts (raw : RawType) : DeclType := .generic raw [.plain .string]
    let narrow := fill [.array (.plain (.primitive .double)), texts .list]
    let wide := fill [.plain .object, texts .collection]
    let cls : ClassDef Unit :=
      { classId := { name := "Sheet" }
        constructors := []
        methods := [narrow, wide]
        fields := [] }
    let b : Binder := { registry := Registry.stock .column }
    ∃ bn bw, b.bind? cls narrow [.grid, .grid] = some bn ∧
      b.bind? cls wide [.grid, .grid] = some bw ∧ bn.score = 18 ∧ bw.score = 18 ∧
      specificityArgs narrow.params = 8 ∧ specificityArgs wide.params = 3 ∧
      (rankOf wide bw).above (rankOf narrow bn) = false ∧
      b.select cls "fill" [narrow, wide] [.grid, .grid] =
        b.select cls "fill" [narrow] [.grid, .grid] := by
  intro fill texts narrow wide cls b
  have hn : narrow.isVariadic = false := rfl
  have hw : wide.isVariadic = false := rfl
  have hwider : List.Forall₂ (fun t s => t.accepts s = true) wide.params narrow.params :=
    .cons rfl (.cons rfl .nil)
  refine ⟨_, _, rfl, rfl, rfl, rfl, rfl, rfl, ?_⟩
  obtain ⟨-, -, hnoeffect⟩ := select_of_wider b cls [.grid, .grid] hn hw rfl rfl rfl hwider
  obtain ⟨hnot, hselect⟩ := hnoeffect (by decide)
  exact ⟨hnot, hselect "fill" [] [] []⟩

/-- **A wider member may be preferred to a narrower one defined before it**: one that takes a list,
and one that takes a collection of texts. Both take a grid through the converter for lists, a
collection of texts may hold any list and no list may hold a collection, and yet the second is the
more specific one by the texts, and is the one that is chosen. -/
theorem exists_wider_preferred :
    let pick (type : DeclType) : Member Unit :=
      { name := "pick"
        params := [type]
        result := .void
        isStatic := true
        body := fun _ _ => pure (.value .null) }
    let list : DeclType := .plain .list
    let collection : DeclType := .generic .collection [.plain .string]
    let cls : ClassDef Unit :=
      { classId := { name := "Book" }
        constructors := []
        methods := [pick list, pick collection]
        fields := [] }
    let b : Binder := { registry := Registry.stock .column }
    collection.accepts list = true ∧ list.accepts collection = false ∧
      ∃ bn bw, b.bind? cls (pick list) [.grid] = some bn ∧
        b.bind? cls (pick collection) [.grid] = some bw ∧ bn.score = bw.score ∧
        (pick list).argSum b.registry [.grid] = (pick collection).argSum b.registry [.grid] ∧
        (rankOf (pick collection) bw).above (rankOf (pick list) bn) = true ∧
        b.methodForKinds cls "pick" [.grid] = .ok bw := by
  intro pick list collection cls b
  exact ⟨rfl, rfl, _, _, rfl, rfl, rfl, rfl, rfl, rfl⟩

end CellMarshal.Binder
