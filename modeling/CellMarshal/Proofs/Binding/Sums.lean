import CellMarshal.Proofs.Binding.Choice
import CellMarshal.Proofs.Registry.Edits

/-!
# Scores in 32 bits

The priorities of the converters for the arguments are added up in 32 bits, one after the other, and
nothing keeps the sum within these: a converter may be registered at any priority, and a variadic
member takes any number of arguments. No addition leaves 32 bits as long as the true sums of the
first arguments are within them, and only then (`addsWithin_scores_iff`). The score of a member is
its true sum, cut down to 32 bits, and so equals it exactly if it fits.

Main statements: `score_of_argSum`, `exists_lesser_sum_preferred` (where a sum does not fit, the
member of the lesser sum may be chosen).
-/

namespace CellMarshal

variable {σ : Type}

/-- A number of 32 bits fits in them. -/
theorem fitsInt32_toInt (s : Int32) : FitsInt32 s.toInt :=
  ⟨s.le_toInt, Int.le_of_lt_add_one s.toInt_lt⟩

/-! ## True sums -/

namespace Registry

variable {r : Registry} {limit : Nat}

/-- An argument scores no more than the priority of some converter. -/
theorem natAbs_argScore_le (hlimit : ∀ k ∈ r.ranked, k.priority.toInt.natAbs ≤ limit)
    (x : DeclType × CellKind) : (r.argScore x).natAbs ≤ limit := by
  unfold argScore
  split
  · exact Nat.zero_le _
  · rcases hk : r.reader? x.1 x.2 with _ | k
    · exact Nat.zero_le _
    · exact hlimit k (of_reader?_eq_some hk).1

/-- What one argument scores fits in 32 bits. -/
theorem fitsInt32_argScore (r : Registry) (x : DeclType × CellKind) :
    FitsInt32 (r.argScore x) := by
  unfold argScore
  split
  · decide
  · rcases r.reader? x.1 x.2 with _ | k
    · decide
    · exact fitsInt32_toInt k.priority

/-- What arguments score is the same within 32 bits. -/
theorem map_toInt_map_ofInt (r : Registry) (args : List (DeclType × CellKind)) :
    (args.map fun x => Int32.ofInt (r.argScore x)).map Int32.toInt = args.map r.argScore := by
  rw [List.map_map]
  exact List.map_congr_left fun x _ => (r.fitsInt32_argScore x).toInt_ofInt

/-- The scores of some arguments add up to no more than their number times a bound on the
priorities. -/
theorem natAbs_sum_argScore_le (hlimit : ∀ k ∈ r.ranked, k.priority.toInt.natAbs ≤ limit)
    (args : List (DeclType × CellKind)) :
    (args.map r.argScore).sum.natAbs ≤ args.length * limit := by
  induction args with
  | nil => exact Nat.zero_le _
  | cons x args ih =>
    have hx := natAbs_argScore_le hlimit x
    calc ((x :: args).map r.argScore).sum.natAbs
        = (r.argScore x + (args.map r.argScore).sum).natAbs := by simp
      _ ≤ (r.argScore x).natAbs + (args.map r.argScore).sum.natAbs := Int.natAbs_add_le _ _
      _ ≤ limit + args.length * limit := Nat.add_le_add hx ih
      _ = (x :: args).length * limit := by rw [List.length_cons, Nat.succ_mul, Nat.add_comm]

end Registry

namespace Member

/-- What the arguments score, as it is added up. -/
def scores (r : Registry) (kinds : List CellKind) (m : Member σ) : List Int32 :=
  (m.arguments kinds).map fun x => Int32.ofInt (r.argScore x)

/-- The sum of the scores is within 32 bits after each argument. -/
def SumsFit (r : Registry) (kinds : List CellKind) (m : Member σ) : Prop :=
  ∀ taken, taken <+: m.arguments kinds → FitsInt32 (taken.map r.argScore).sum

variable {r : Registry} {kinds : List CellKind} {m : Member σ}

/-- The sum of all scores fits where the sums on the way do. -/
theorem SumsFit.argSum (h : m.SumsFit r kinds) : FitsInt32 (m.argSum r kinds) :=
  h _ (List.prefix_refl _)

/-- Sums fit as long as there are not too many arguments for the greatest priority. -/
theorem sumsFit_of_limit {limit : Nat}
    (hlimit : ∀ k ∈ r.ranked, k.priority.toInt.natAbs ≤ limit)
    (hlength : (m.arguments kinds).length * limit ≤ 2147483647) : m.SumsFit r kinds := by
  intro taken htaken
  have hsum := Registry.natAbs_sum_argScore_le hlimit taken
  have htakenLength : taken.length * limit ≤ (m.arguments kinds).length * limit :=
    Nat.mul_le_mul_right limit htaken.length_le
  unfold FitsInt32
  omega

end Member

/-! ## Additions in 32 bits -/

/-- An addition that stays within 32 bits is exact. -/
theorem toInt_add_of_fitsInt32 {s t : Int32} (h : FitsInt32 (s.toInt + t.toInt)) :
    (s + t).toInt = s.toInt + t.toInt := by
  unfold FitsInt32 at h
  rw [Int32.toInt_add]
  exact Int.bmod_eq_of_le_mul_two (by omega) (by omega)

namespace Binder

/-- No addition leaves 32 bits where scores are added up from the first to the last. -/
def AddsWithin (scores : List Int32) : Prop :=
  ∀ taken s, taken ++ [s] <+: scores → FitsInt32 ((total taken).toInt + s.toInt)

/-- One more score can be added where those before could be and the sum fits. -/
theorem addsWithin_append_single {scores : List Int32} {s : Int32} :
    AddsWithin (scores ++ [s]) ↔
      AddsWithin scores ∧ FitsInt32 ((total scores).toInt + s.toInt) := by
  constructor
  · intro h
    refine ⟨fun taken t ht => h taken t (ht.trans (List.prefix_append _ _)), ?_⟩
    exact h scores s (List.prefix_refl _)
  · rintro ⟨h, hlast⟩ taken t ht
    rcases List.prefix_concat_iff.1 ht with ht | ht
    · obtain ⟨rfl, hs⟩ := List.append_inj' ht rfl
      cases hs
      exact hlast
    · exact h taken t ht

/-- As long as no addition leaves 32 bits, the total is the sum. -/
theorem toInt_total {scores : List Int32} (h : AddsWithin scores) :
    (total scores).toInt = (scores.map Int32.toInt).sum := by
  induction scores using List.reverseRecOn with
  | nil => rfl
  | append_singleton scores s ih =>
    obtain ⟨hscores, hlast⟩ := addsWithin_append_single.1 h
    rw [total_append_single, toInt_add_of_fitsInt32 hlast, ih hscores]
    simp

/-- Additions stay within 32 bits exactly where the true sums do. -/
theorem addsWithin_iff {scores : List Int32} :
    AddsWithin scores ↔ ∀ taken, taken <+: scores → FitsInt32 (taken.map Int32.toInt).sum := by
  induction scores using List.reverseRecOn with
  | nil => simp [AddsWithin, FitsInt32]
  | append_singleton scores s ih =>
    have hall : ((scores ++ [s]).map Int32.toInt).sum =
        (scores.map Int32.toInt).sum + s.toInt := by
      simp
    rw [addsWithin_append_single]
    constructor
    · rintro ⟨h, hlast⟩ taken ht
      rcases List.prefix_concat_iff.1 ht with rfl | ht
      · rw [hall, ← toInt_total h]
        exact hlast
      · exact ih.1 h taken ht
    · intro h
      have hscores : AddsWithin scores :=
        ih.2 fun taken ht => h taken (ht.trans (List.prefix_append _ _))
      refine ⟨hscores, ?_⟩
      rw [toInt_total hscores, ← hall]
      exact h _ (List.prefix_refl _)

/-! ## The score of a member -/

variable {b : Binder} {cls : ClassDef σ} {kinds : List CellKind} {m : Member σ} {bound : Binding σ}

/-- The score of a binding is what its arguments score, added up. -/
theorem score_eq_total (h : b.bind? cls m kinds = some bound) :
    bound.score = total (m.scores b.registry kinds) := by
  obtain ⟨scores, hscore, hscores⟩ := exists_scores h
  have hinjective : Function.Injective Int32.toInt := fun _ _ => Int32.toInt_inj.1
  have hsame : scores = m.scores b.registry kinds :=
    List.map_injective_iff.2 hinjective (hscores.trans (Registry.map_toInt_map_ofInt _ _).symm)
  rw [hscore, hsame]

/-- The additions for a member stay within 32 bits exactly where its sums do. -/
theorem addsWithin_scores_iff {r : Registry} :
    AddsWithin (m.scores r kinds) ↔ m.SumsFit r kinds := by
  rw [addsWithin_iff, Member.SumsFit]
  constructor
  · intro h taken ht
    rw [← Registry.map_toInt_map_ofInt]
    exact h _ (ht.map _)
  · intro h scores hscores
    obtain ⟨taken, ht, rfl⟩ := List.prefix_map_iff.1 hscores
    rw [Registry.map_toInt_map_ofInt]
    exact h taken ht

/-- **The score of a member is the sum of the priorities of its converters, in 32 bits**, for every
registry, every member that is bound and arguments of any kinds and any number.

It is the total of what the arguments score, and no addition on the way leaves 32 bits exactly if
the true sums never do, after any number of arguments. The score is the true sum up to a multiple of
`2 ^ 32`, and equals it exactly if it is within 32 bits, which it is as long as there are not too
many arguments for the greatest priority registered. Two members whose true sums are within 32 bits
compare by their scores as they do by these sums. -/
theorem score_of_argSum (b : Binder) (cls : ClassDef σ) (m : Member σ) (kinds : List CellKind)
    (h : b.bind? cls m kinds = some bound) :
    bound.score = total (m.scores b.registry kinds) ∧
      (AddsWithin (m.scores b.registry kinds) ↔ m.SumsFit b.registry kinds) ∧
      bound.score.toInt = (m.argSum b.registry kinds).bmod (2 ^ 32) ∧
      (bound.score.toInt = m.argSum b.registry kinds ↔ FitsInt32 (m.argSum b.registry kinds)) ∧
      (∀ limit, (∀ k ∈ b.registry.ranked, k.priority.toInt.natAbs ≤ limit) →
        (m.arguments kinds).length * limit ≤ 2147483647 → m.SumsFit b.registry kinds) ∧
      ∀ (m' : Member σ) bound', b.bind? cls m' kinds = some bound' →
        FitsInt32 (m.argSum b.registry kinds) → FitsInt32 (m'.argSum b.registry kinds) →
        (bound'.score < bound.score ↔ m'.argSum b.registry kinds < m.argSum b.registry kinds) := by
  refine ⟨score_eq_total h, addsWithin_scores_iff, ?_, ⟨?_, toInt_score h⟩, ?_, ?_⟩
  · rw [score_eq_ofInt h, Int32.toInt_ofInt]
    rfl
  · intro hsum
    rw [← hsum]
    exact fitsInt32_toInt bound.score
  · intro limit hlimit hlength
    exact Member.sumsFit_of_limit hlimit hlength
  · intro m' bound' h' hfit hfit'
    rw [Int32.lt_iff_toInt_lt, toInt_score h hfit, toInt_score h' hfit']

/-- A variadic member of doubles for three numbers, in the stock registry. No priority there is more
than ten in size, so that its three tens are added up within 32 bits, and it scores more than three
sevens, which is what three integers in place of the doubles score. -/
theorem score_of_argSum_mean :
    let mean (params : List DeclType) (isVariadic : Bool) : Member Unit :=
      { name := "mean"
        params := params
        result := .plain (.primitive .double)
        isStatic := true
        isVariadic := isVariadic
        body := fun _ _ => pure (.value .null) }
    let int : DeclType := .plain (.primitive .int)
    let reals := mean [.array (.plain (.primitive .double))] true
    let ints := mean [int, int, int] false
    let cls : ClassDef Unit :=
      { classId := { name := "Book" }
        constructors := []
        methods := [reals, ints]
        fields := [] }
    let b : Binder := { registry := Registry.stock .column }
    let kinds : List CellKind := [.number, .number, .number]
    ∃ bound bound', b.bind? cls reals kinds = some bound ∧ b.bind? cls ints kinds = some bound' ∧
      reals.argSum b.registry kinds = 30 ∧ ints.argSum b.registry kinds = 21 ∧
      AddsWithin (reals.scores b.registry kinds) ∧ bound.score.toInt = 30 ∧
      bound'.score < bound.score := by
  intro mean int reals ints cls b kinds
  refine ⟨_, _, rfl, rfl, rfl, rfl, ?_⟩
  obtain ⟨-, hwithin, -, hexact, hlimit, hcompare⟩ := score_of_argSum b cls reals kinds rfl
  have hfit := hlimit 10 (by decide) (by decide)
  have hless := hcompare ints _ rfl hfit.argSum (by decide)
  exact ⟨hwithin.2 hfit, hexact.2 hfit.argSum, hless.2 (by decide)⟩

/-- **The member of the lesser sum may be chosen**: one that takes integers, at priority 5, goes
before one that takes doubles, at the greatest priority there is. Both converters are accepted, and
the sum for two doubles is 4294967294, which does not fit in 32 bits, while their score is -2. -/
theorem exists_lesser_sum_preferred :
    let add (type : DeclType) : Member Unit :=
      { name := "add"
        params := [type, type]
        result := type
        isStatic := true
        body := fun _ _ => pure (.value .null) }
    let reals := add (.plain (.primitive .double))
    let ints := add (.plain (.primitive .int))
    let cls : ClassDef Unit :=
      { classId := { name := "Book" }
        constructors := []
        methods := [reals, ints]
        fields := [] }
    let edits : List Registry.Draft.Edit :=
      [.register ⟨.numeric .double, .number, 2147483647⟩, .register ⟨.numeric .int, .number, 5⟩]
    let b : Binder := { registry := (({} : Registry.Draft).editAll edits).build }
    let kinds : List CellKind := [.number, .number]
    ∃ bound bound', b.bind? cls reals kinds = some bound ∧ b.bind? cls ints kinds = some bound' ∧
      reals.argSum b.registry kinds = 4294967294 ∧ ints.argSum b.registry kinds = 10 ∧
      bound.score = -2 ∧ bound'.score = 10 ∧ ¬AddsWithin (reals.scores b.registry kinds) ∧
      b.methodForKinds cls "add" kinds = .ok bound' := by
  intro add reals ints cls edits b kinds
  refine ⟨_, _, rfl, rfl, rfl, rfl, rfl, rfl, ?_, rfl⟩
  intro hwithin
  exact absurd (hwithin [2147483647] 2147483647 (List.prefix_refl _)) (by decide)

end Binder

end CellMarshal
