import CellMarshal.Proofs.Binding.Selected
import Mathlib

/-!
# The choice among members of one name

Which member is selected, said without the scan that selects it. A member qualifies for the kinds of
some arguments where it takes a receiver and as many arguments as there are, and where every
argument resolves for its parameter, or for the component of the array in which it is passed on
(`Member.Qualifies`). The merit of a member is whether its arity is fixed, the sum of what its
arguments score, and how specific its parameters are, compared in this order (`Member.merit`). What
is selected is the first member of the greatest merit among those that qualify.

Scores are summed up as integers here and in 32 bits by the scan, so that the two agree as long as
the sums fit. Which members are considered does not depend on the sums. Main statements:
`exists_bind?_iff` (binding succeeds for the members that qualify), `above_iff_merit_lt`,
`best_filter_qualifies`, `best_eq_choice?` and `chosen?_eq_choice?`.
-/

namespace CellMarshal

variable {σ : Type}

/-- What members are compared by: whether the arity is fixed, what the arguments score, and how
specific the parameters are, in this order. -/
def Merit : Type :=
  Bool ×ₗ Int ×ₗ Nat

/-- Merits are compared part by part, and the first part that differs decides. -/
instance : LinearOrder Merit :=
  inferInstanceAs (LinearOrder (Bool ×ₗ Int ×ₗ Nat))

/-! ## What a member takes -/

namespace Registry

/-- An argument of some kind resolves for a type: it is missing, and not taken as the cell that it
is, or there is a converter for it. -/
def Resolves (r : Registry) (x : DeclType × CellKind) : Prop :=
  (x.2 = .missing ∧ x.1.isCell = false) ∨ (r.reader? x.1 x.2).isSome = true

/-- What an argument of some kind scores for a type: nothing if it needs no converter, and the
priority of its converter otherwise. -/
def argScore (r : Registry) (x : DeclType × CellKind) : Int :=
  if x.2 = .missing ∧ x.1.isCell = false then 0
  else ((r.reader? x.1 x.2).map fun k => k.priority.toInt).getD 0

/-- Whether an argument resolves can be computed. -/
instance (r : Registry) (x : DeclType × CellKind) : Decidable (r.Resolves x) :=
  inferInstanceAs (Decidable (_ ∨ _))

end Registry

namespace Member

/-- The kinds of the arguments without the receiver, if the member takes one. -/
def argKinds (m : Member σ) (kinds : List CellKind) : List CellKind :=
  if m.isStatic then kinds else kinds.tail

/-- The type of each further argument of a variadic member. -/
def component? (m : Member σ) : Option DeclType :=
  m.vararg?.bind DeclType.element?

/-- Further arguments, each with its type. -/
def tailArguments (m : Member σ) (tail : List CellKind) : List (DeclType × CellKind) :=
  m.component?.toList.flatMap fun component => tail.map fun kind => (component, kind)

/-- All arguments, each with the type of its parameter or with the component. -/
def arguments (m : Member σ) (kinds : List CellKind) : List (DeclType × CellKind) :=
  m.fixedParams.zip (m.argKinds kinds) ++
    m.tailArguments ((m.argKinds kinds).drop m.fixedParams.length)

/-- A member qualifies for arguments of some kinds. -/
structure Qualifies (r : Registry) (kinds : List CellKind) (m : Member σ) : Prop where
  /-- Unless it is static, the first argument is the receiver, an object or missing. -/
  receiver : m.isStatic = true ∨ kinds.head? = some .reference ∨ kinds.head? = some .missing
  /-- The others are as many as its parameters, or no fewer where it is variadic. -/
  arity : if m.isVariadic then m.fixedParams.length ≤ (m.argKinds kinds).length
    else (m.argKinds kinds).length = m.fixedParams.length
  /-- Each of them resolves for its type. -/
  arguments : ∀ x ∈ m.arguments kinds, r.Resolves x
  /-- The array of further arguments, if any, has a component, and a converter for grids. -/
  array : ∀ type ∈ m.vararg?, type.element?.isSome = true ∧ (r.reader? type .grid).isSome = true

/-- Whether a member qualifies can be computed. -/
instance (r : Registry) (kinds : List CellKind) (m : Member σ) :
    Decidable (m.Qualifies r kinds) :=
  decidable_of_iff
    ((m.isStatic = true ∨ kinds.head? = some .reference ∨ kinds.head? = some .missing) ∧
      (if m.isVariadic then m.fixedParams.length ≤ (m.argKinds kinds).length
        else (m.argKinds kinds).length = m.fixedParams.length) ∧
      (∀ x ∈ m.arguments kinds, r.Resolves x) ∧
      ∀ type ∈ m.vararg?, type.element?.isSome = true ∧ (r.reader? type .grid).isSome = true)
    ⟨fun ⟨h₁, h₂, h₃, h₄⟩ => ⟨h₁, h₂, h₃, h₄⟩, fun h => ⟨h.receiver, h.arity, h.arguments, h.array⟩⟩

/-- The scores of all arguments together. -/
def argSum (r : Registry) (kinds : List CellKind) (m : Member σ) : Int :=
  ((m.arguments kinds).map r.argScore).sum

/-- A fixed arity, the scores of the arguments, and the specificities of the parameters. -/
def merit (r : Registry) (kinds : List CellKind) (m : Member σ) : Merit :=
  toLex (!m.isVariadic, toLex (m.argSum r kinds, (m.params.map DeclType.specificity).sum))

/-- The first member of the greatest merit among those that qualify. -/
def choice? (r : Registry) (kinds : List CellKind) (members : List (Member σ)) :
    Option (Member σ) :=
  (members.filter fun m => m.Qualifies r kinds).argmax (merit r kinds)

end Member

/-- The specificities of some types together are their sum. -/
theorem DeclType.specificityArgs_eq_sum (types : List DeclType) :
    DeclType.specificityArgs types = (types.map DeclType.specificity).sum := by
  induction types with
  | nil => rfl
  | cons t types ih => rw [DeclType.specificityArgs, ih, List.map_cons, List.sum_cons]

/-! ## Sums in 32 bits -/

/-- A number that fits in 32 bits. -/
def FitsInt32 (n : Int) : Prop :=
  -2147483648 ≤ n ∧ n ≤ 2147483647

/-- Whether a number fits in 32 bits can be computed. -/
instance (n : Int) : Decidable (FitsInt32 n) :=
  inferInstanceAs (Decidable (_ ∧ _))

/-- A number that fits in 32 bits survives the way into them and back. -/
theorem FitsInt32.toInt_ofInt {n : Int} (h : FitsInt32 n) : (Int32.ofInt n).toInt = n :=
  Int32.toInt_ofInt_of_le h.1 (Int.lt_of_le_of_lt h.2 (by decide))

namespace Binder

/-- Scores are added up from the first to the last. -/
theorem total_append_single (scores : List Int32) (s : Int32) :
    total (scores ++ [s]) = total scores + s := by
  simp [total]

/-- Scores are added up as integers are, and the sum is cut down to 32 bits. -/
theorem total_eq_ofInt (scores : List Int32) :
    total scores = Int32.ofInt (scores.map Int32.toInt).sum := by
  induction scores using List.reverseRecOn with
  | nil => rfl
  | append_singleton scores s ih =>
    rw [total_append_single, ih, List.map_append, List.sum_append, Int32.ofInt_add]
    simp [Int32.ofInt_toInt]

/-! ## Qualifying -/

variable {b : Binder} {cls : ClassDef σ} {m : Member σ} {kinds rest tail : List CellKind}
  {bound : Binding σ}

/-- The receiver is taken off where there is one. -/
theorem afterReceiver?_eq_some_iff :
    afterReceiver? m kinds = some rest ↔
      (m.isStatic = true ∨ kinds.head? = some .reference ∨ kinds.head? = some .missing) ∧
        m.argKinds kinds = rest := by
  unfold afterReceiver? Member.argKinds
  by_cases hs : m.isStatic = true
  · simp [hs]
  · rcases kinds with _ | ⟨k, kinds⟩
    · simp [hs]
    · cases k <;> simp [hs]

/-- A number of arguments fits a member of fixed arity if there is one for each parameter, and a
variadic one if there are enough for the fixed parameters. -/
theorem fitsArity_iff {n : Nat} :
    fitsArity m n = true ↔
      if m.isVariadic then m.fixedParams.length ≤ n else n = m.fixedParams.length := by
  unfold fitsArity
  split <;> exact decide_eq_true_iff

/-- There is a slot for an argument that resolves, and it adds what the argument scores. -/
theorem exists_slot?_iff {x : DeclType × CellKind} :
    (∃ slot, b.slot? x.1 x.2 = some slot) ↔ b.registry.Resolves x := by
  unfold slot? Registry.Resolves
  split
  · rename_i h
    exact iff_of_true ⟨_, rfl⟩ (Or.inl h)
  · rename_i h
    simp [h, Option.isSome_iff_exists]

/-- A slot scores what its argument does. -/
theorem toInt_slotScore {x : DeclType × CellKind} {slot : ParamSlot}
    (h : b.slot? x.1 x.2 = some slot) : (slotScore slot).toInt = b.registry.argScore x := by
  unfold slot? at h
  unfold Registry.argScore
  split at h
  · rename_i hm
    cases h
    rw [if_pos hm]
    rfl
  · rename_i hm
    obtain ⟨k, hk, rfl⟩ := Option.map_eq_some_iff.1 h
    rw [if_neg hm, hk]
    rfl

/-- A further argument adds what a slot for it would. -/
theorem tailScore?_eq_map (b : Binder) (component : DeclType) (kind : CellKind) :
    b.tailScore? component kind = (b.slot? component kind).map slotScore := by
  unfold tailScore? slot?
  split
  · rfl
  · rw [Option.map_map]
    rfl

/-- Further arguments add up where each of them resolves. -/
theorem exists_tailScores_iff {component : DeclType} :
    (∃ scores, tail.mapM (b.tailScore? component) = some scores) ↔
      ∀ kind ∈ tail, b.registry.Resolves (component, kind) := by
  constructor
  · rintro ⟨scores, h⟩ kind hkind
    obtain ⟨score, hscore⟩ := exists_of_mapM_eq_some h hkind
    rw [tailScore?_eq_map] at hscore
    obtain ⟨slot, hslot, -⟩ := Option.map_eq_some_iff.1 hscore
    exact exists_slot?_iff.1 ⟨slot, hslot⟩
  · intro h
    have hall : ∀ kind ∈ tail, ∃ score, b.tailScore? component kind = some score := by
      intro kind hkind
      obtain ⟨slot, hslot⟩ := exists_slot?_iff.2 (h kind hkind)
      exact ⟨slotScore slot, by rw [tailScore?_eq_map, hslot]; rfl⟩
    obtain ⟨scores, hscores⟩ := exists_forall₂ hall
    exact ⟨scores, mapM_eq_some_iff.2 hscores⟩

/-- Further arguments score one by one what each of them does for the component. -/
theorem toInt_tailScores {component : DeclType} {scores : List Int32}
    (h : tail.mapM (b.tailScore? component) = some scores) :
    scores.map Int32.toInt = tail.map fun kind => b.registry.argScore (component, kind) := by
  rw [← List.forall₂_eq_eq_eq, List.forall₂_map_left_iff, List.forall₂_map_right_iff]
  refine ((mapM_eq_some_iff.1 h).imp fun kind score hscore => ?_).flip
  rw [tailScore?_eq_map] at hscore
  obtain ⟨slot, hslot, rfl⟩ := Option.map_eq_some_iff.1 hscore
  exact toInt_slotScore (x := (component, kind)) hslot

/-- A member without variadic array has no further arguments. -/
theorem tailArguments_of_none (h : m.vararg? = none) : m.tailArguments tail = [] := by
  rw [Member.tailArguments, Member.component?, h]
  rfl

/-- The further arguments of a variadic member are those for its component. -/
theorem tailArguments_of_some {type component : DeclType} (h : m.vararg? = some type)
    (hc : type.element? = some component) :
    m.tailArguments tail = tail.map fun kind => (component, kind) := by
  rw [Member.tailArguments, Member.component?, h, Option.bind_some, hc]
  simp

/-- The array of a variadic member is made where its component, the further arguments and a
converter for grids are there. -/
theorem tail?_eq_some_iff {type : DeclType} (hm : m.vararg? = some type)
    {va : Option VarargSlot} {scores : List Int32} :
    b.tail? m tail = some (va, scores) ↔
      ∃ component k, type.element? = some component ∧
        tail.mapM (b.tailScore? component) = some scores ∧ b.registry.reader? type .grid = some k ∧
        va = some { arrayType := type, converter := k } := by
  rw [tail?, hm]
  constructor
  · intro h
    obtain ⟨⟨v, scores⟩, hv, h⟩ := Option.map_eq_some_iff.1 h
    cases h
    obtain ⟨component, hc, hv⟩ := Option.bind_eq_some_iff.1 hv
    obtain ⟨scores, hscores, hv⟩ := Option.bind_eq_some_iff.1 hv
    obtain ⟨k, hk, hv⟩ := Option.bind_eq_some_iff.1 hv
    cases hv
    exact ⟨component, k, hc, hscores, hk, rfl⟩
  · rintro ⟨component, k, hc, hscores, hk, rfl⟩
    refine Option.map_eq_some_iff.2 ⟨({ arrayType := type, converter := k }, scores), ?_, rfl⟩
    refine Option.bind_eq_some_iff.2 ⟨component, hc, ?_⟩
    refine Option.bind_eq_some_iff.2 ⟨scores, hscores, ?_⟩
    exact Option.bind_eq_some_iff.2 ⟨k, hk, rfl⟩

/-- The further arguments come to something where each of them resolves and the array does. -/
theorem exists_tail?_iff :
    (∃ va scores, b.tail? m tail = some (va, scores)) ↔
      (∀ x ∈ m.tailArguments tail, b.registry.Resolves x) ∧
        ∀ type ∈ m.vararg?, type.element?.isSome = true ∧
          (b.registry.reader? type .grid).isSome = true := by
  rcases hm : m.vararg? with _ | type
  · rw [tailArguments_of_none hm, tail?, hm]
    simp
  constructor
  · rintro ⟨va, scores, h⟩
    obtain ⟨component, k, hc, hscores, hk, -⟩ := (tail?_eq_some_iff hm).1 h
    rw [tailArguments_of_some hm hc, List.forall_mem_map]
    refine ⟨exists_tailScores_iff.1 ⟨scores, hscores⟩, ?_⟩
    intro t ht
    cases ht
    rw [hc, hk]
    exact ⟨rfl, rfl⟩
  · rintro ⟨hresolves, harray⟩
    obtain ⟨hc, hk⟩ := harray type rfl
    obtain ⟨component, hc⟩ := Option.isSome_iff_exists.1 hc
    obtain ⟨k, hk⟩ := Option.isSome_iff_exists.1 hk
    rw [tailArguments_of_some hm hc, List.forall_mem_map] at hresolves
    obtain ⟨scores, hscores⟩ := exists_tailScores_iff.2 hresolves
    exact ⟨_, scores, (tail?_eq_some_iff hm).2 ⟨component, k, hc, hscores, hk, rfl⟩⟩

/-- What the further arguments add to the score is what they score, and nothing for a member of
fixed arity. -/
theorem toInt_tail? {va : Option VarargSlot} {scores : List Int32}
    (h : b.tail? m tail = some (va, scores)) :
    scores.map Int32.toInt = (m.tailArguments tail).map b.registry.argScore := by
  rcases hm : m.vararg? with _ | type
  · rw [tail?, hm] at h
    cases h
    rw [tailArguments_of_none hm]
    rfl
  · obtain ⟨component, k, hc, hscores, -, -⟩ := (tail?_eq_some_iff hm).1 h
    rw [tailArguments_of_some hm hc, List.map_map]
    exact toInt_tailScores hscores

/-- **A member is bound for the arguments that it qualifies for.** -/
theorem exists_bind?_iff :
    (∃ bound, b.bind? cls m kinds = some bound) ↔ m.Qualifies b.registry kinds := by
  constructor
  · rintro ⟨bound, h⟩
    obtain ⟨rest, slots, va, scores, hrest, hfits, hslots, htail, -⟩ := bind?_eq_some_iff.1 h
    obtain ⟨hreceiver, rfl⟩ := afterReceiver?_eq_some_iff.1 hrest
    obtain ⟨hresolves, harray⟩ := exists_tail?_iff.1 ⟨va, scores, htail⟩
    refine ⟨hreceiver, fitsArity_iff.1 hfits, ?_, harray⟩
    refine List.forall_mem_append.2 ⟨fun x hx => ?_, hresolves⟩
    obtain ⟨slot, -, hslot⟩ := exists_of_mem_left hslots hx
    exact exists_slot?_iff.1 ⟨slot, hslot⟩
  · rintro ⟨hreceiver, harity, harguments, harray⟩
    obtain ⟨hparams, htail⟩ := List.forall_mem_append.1 harguments
    obtain ⟨slots, hslots⟩ := exists_forall₂ fun x hx => exists_slot?_iff.2 (hparams x hx)
    obtain ⟨va, scores, hscores⟩ := exists_tail?_iff.2 ⟨htail, harray⟩
    exact ⟨_, bind?_eq_some_iff.2 ⟨_, slots, va, scores,
      afterReceiver?_eq_some_iff.2 ⟨hreceiver, rfl⟩, fitsArity_iff.2 harity, hslots, hscores, rfl⟩⟩

/-- The score of a binding is the total of what its arguments score, one after the other. -/
theorem exists_scores (h : b.bind? cls m kinds = some bound) :
    ∃ scores, bound.score = total scores ∧
      scores.map Int32.toInt = (m.arguments kinds).map b.registry.argScore := by
  obtain ⟨rest, slots, va, scores, hrest, -, hslots, htail, rfl⟩ := bind?_eq_some_iff.1 h
  obtain ⟨-, rfl⟩ := afterReceiver?_eq_some_iff.1 hrest
  have hparams : (slots.map slotScore).map Int32.toInt =
      (m.fixedParams.zip (m.argKinds kinds)).map b.registry.argScore := by
    rw [List.map_map, ← List.forall₂_eq_eq_eq, List.forall₂_map_left_iff,
      List.forall₂_map_right_iff]
    exact (hslots.imp fun x slot hslot => toInt_slotScore hslot).flip
  refine ⟨slots.map slotScore ++ scores, rfl, ?_⟩
  rw [List.map_append, hparams, toInt_tail? htail, ← List.map_append]
  rfl

/-- The score of a binding is the sum of what its arguments score, in 32 bits. -/
theorem score_eq_ofInt (h : b.bind? cls m kinds = some bound) :
    bound.score = Int32.ofInt (m.argSum b.registry kinds) := by
  obtain ⟨scores, hscore, hscores⟩ := exists_scores h
  rw [hscore, total_eq_ofInt, hscores]
  rfl

/-- The score of a binding is the sum of what its arguments score, where this fits. -/
theorem toInt_score (h : b.bind? cls m kinds = some bound)
    (hfit : FitsInt32 (m.argSum b.registry kinds)) :
    bound.score.toInt = m.argSum b.registry kinds := by
  rw [score_eq_ofInt h, hfit.toInt_ofInt]

/-! ## Choosing -/

/-- The parts of a rank in the order in which they are compared. -/
def Rank.merit (x : Rank) : Merit :=
  toLex (x.isFixed, toLex (x.score.toInt, x.specificity))

/-- Ranks compare as their merits do, part by part. -/
theorem Rank.above_iff_merit_lt {x y : Rank} : x.above y = true ↔ y.merit < x.merit := by
  have hmerit : y.merit < x.merit ↔ y.isFixed < x.isFixed ∨ y.isFixed = x.isFixed ∧
      (y.score.toInt < x.score.toInt ∨
        y.score.toInt = x.score.toInt ∧ y.specificity < x.specificity) :=
    Prod.Lex.toLex_lt_toLex.trans (or_congr Iff.rfl (and_congr Iff.rfl Prod.Lex.toLex_lt_toLex))
  rw [hmerit, Rank.above_iff, Bool.lt_iff, Int32.lt_iff_toInt_lt, Int32.toInt_inj]
  exact or_congr and_comm (and_congr eq_comm (or_congr Iff.rfl (and_congr eq_comm Iff.rfl)))

/-- The rank of a member that is bound has the merit of the member, where its scores fit. -/
theorem merit_rankOf (h : b.bind? cls m kinds = some bound)
    (hfit : FitsInt32 (m.argSum b.registry kinds)) :
    (rankOf m bound).merit = m.merit b.registry kinds := by
  rw [Rank.merit, rankOf, toInt_score h hfit, DeclType.specificityArgs_eq_sum]
  rfl

/-- Of two members that qualify, the ranks compare as the merits do. -/
theorem above_iff_merit_lt {m' : Member σ} {bound' : Binding σ}
    (h : b.bind? cls m kinds = some bound) (h' : b.bind? cls m' kinds = some bound')
    (hfit : FitsInt32 (m.argSum b.registry kinds))
    (hfit' : FitsInt32 (m'.argSum b.registry kinds)) :
    (rankOf m bound).above (rankOf m' bound') = true ↔
      m'.merit b.registry kinds < m.merit b.registry kinds := by
  rw [Rank.above_iff_merit_lt, merit_rankOf h hfit, merit_rankOf h' hfit']

/-- The candidates are the members that qualify. -/
theorem candidate_eq_none_iff :
    b.candidate cls kinds m = none ↔ ¬m.Qualifies b.registry kinds := by
  rw [candidate, Option.map_eq_none_iff, Option.eq_none_iff_forall_ne_some, ← not_exists,
    exists_bind?_iff]

/-- Where nothing qualifies, the choice stays as it was. -/
theorem better_none (x : Option (Rank × Binding σ)) : better x none = x := by
  cases x <;> rfl

/-- Nothing is chosen exactly if nothing was before and nothing qualifies. -/
theorem better_eq_none_iff {x y : Option (Rank × Binding σ)} :
    better x y = none ↔ x = none ∧ y = none := by
  unfold better
  rcases x with _ | x <;> rcases y with _ | y
  · simp
  · simp
  · simp
  · simp only [reduceCtorEq, and_false, iff_false]
    split <;> simp

variable {members : List (Member σ)}

/-- The scan comes to nothing exactly where no member qualifies. -/
theorem best_eq_none_iff :
    b.best cls members kinds = none ↔ ∀ m ∈ members, ¬m.Qualifies b.registry kinds := by
  induction members using List.reverseRecOn with
  | nil => simp [best_nil]
  | append_singleton members m ih =>
    rw [best_append_single, better_eq_none_iff, ih, candidate_eq_none_iff, List.forall_mem_append,
      List.forall_mem_singleton]

/-- Members that do not qualify have no part in the scan. -/
theorem best_filter_qualifies :
    b.best cls (members.filter fun m => m.Qualifies b.registry kinds) kinds =
      b.best cls members kinds := by
  induction members using List.reverseRecOn with
  | nil => rfl
  | append_singleton members m ih =>
    rw [List.filter_append, List.filter_singleton, best_append_single, ← ih]
    by_cases hq : m.Qualifies b.registry kinds
    · rw [decide_eq_true hq, cond_true, best_append_single]
    · rw [decide_eq_false hq, cond_false, List.append_nil, candidate_eq_none_iff.2 hq, better_none]

/-! ## The class of the members

A binding carries the class of its member, on which neither its rank nor its member depends. -/

/-- What is compared of a candidate, and which member it is. -/
def outline (x : Option (Rank × Binding σ)) : Option (Rank × Option (Member σ)) :=
  x.map fun x => (x.1, x.2.member?)

/-- Binding a member does not depend on the class it is looked up in, which the binding only carries
along. -/
theorem bind?_of_class (cls' : ClassDef σ) (h : b.bind? cls m kinds = some bound) :
    b.bind? cls' m kinds = some { bound with cls := cls' } := by
  obtain ⟨rest, slots, va, scores, hrest, hfits, hslots, htail, rfl⟩ := bind?_eq_some_iff.1 h
  exact bind?_eq_some_iff.2 ⟨rest, slots, va, scores, hrest, hfits, hslots, htail, rfl⟩

/-- What is compared of a candidate does not depend on the class. -/
theorem outline_candidate (cls cls' : ClassDef σ) :
    outline (b.candidate cls kinds m) = outline (b.candidate cls' kinds m) := by
  by_cases hq : m.Qualifies b.registry kinds
  · obtain ⟨bound, hbind⟩ : ∃ bound, b.bind? cls m kinds = some bound := exists_bind?_iff.2 hq
    rw [candidate, candidate, hbind, bind?_of_class cls' hbind]
    rfl
  · rw [candidate_eq_none_iff.2 hq, candidate_eq_none_iff.2 hq]

/-- The better of two is settled by what is compared of them. -/
theorem outline_better (x y : Option (Rank × Binding σ)) :
    outline (better x y) =
      match outline x, outline y with
      | none, next => next
      | best, none => best
      | some x, some y => if y.1.above x.1 then some y else some x := by
  rcases x with _ | x <;> rcases y with _ | y
  · rfl
  · rfl
  · rfl
  · exact apply_ite outline _ _ _

/-- The choice does not depend on the class. -/
theorem outline_best (cls cls' : ClassDef σ) :
    outline (b.best cls members kinds) = outline (b.best cls' members kinds) := by
  induction members using List.reverseRecOn with
  | nil => rfl
  | append_singleton members m ih =>
    rw [best_append_single, best_append_single, outline_better, outline_better, ih,
      outline_candidate cls cls']

/-! ## The member of the greatest merit -/

/-- The scan compares two members that qualify by their merits. -/
theorem better_candidate {m' : Member σ} (hq : m.Qualifies b.registry kinds)
    (hq' : m'.Qualifies b.registry kinds) (hfit : FitsInt32 (m.argSum b.registry kinds))
    (hfit' : FitsInt32 (m'.argSum b.registry kinds)) :
    better (b.candidate cls kinds m) (b.candidate cls kinds m') =
      b.candidate cls kinds
        (if m.merit b.registry kinds < m'.merit b.registry kinds then m' else m) := by
  obtain ⟨bound, hbind⟩ : ∃ bound, b.bind? cls m kinds = some bound := exists_bind?_iff.2 hq
  obtain ⟨bound', hbind'⟩ : ∃ bound, b.bind? cls m' kinds = some bound := exists_bind?_iff.2 hq'
  have habove := above_iff_merit_lt hbind' hbind hfit' hfit
  rw [apply_ite (b.candidate cls kinds), candidate, candidate, hbind, hbind']
  simp only [Option.map_some, better, habove]

/-- A member that does not qualify is passed over. -/
theorem choice?_append_of_not (r : Registry) (hq : ¬m.Qualifies r kinds) :
    Member.choice? r kinds (members ++ [m]) = Member.choice? r kinds members := by
  rw [Member.choice?, List.filter_append, List.filter_singleton, decide_eq_false hq, cond_false,
    List.append_nil]
  rfl

/-- A member that qualifies is chosen over the choice before it if its merit is greater. -/
theorem choice?_append_of_qualifies {r : Registry} (hq : m.Qualifies r kinds) :
    Member.choice? r kinds (members ++ [m]) =
      match Member.choice? r kinds members with
      | none => some m
      | some top => some (if top.merit r kinds < m.merit r kinds then m else top) := by
  rw [Member.choice?, List.filter_append, List.filter_singleton, decide_eq_true hq, cond_true,
    List.argmax_concat, Member.choice?]
  rcases List.argmax (Member.merit r kinds) _ with _ | top
  · rfl
  · exact (apply_ite some _ _ _).symm

/-- A member that is chosen is one of those given, and qualifies. -/
theorem qualifies_of_choice? {r : Registry} (h : Member.choice? r kinds members = some m) :
    m ∈ members ∧ m.Qualifies r kinds := by
  obtain ⟨hmem, hq⟩ := List.mem_filter.1 (List.argmax_mem h)
  exact ⟨hmem, of_decide_eq_true hq⟩

/-- **The scan comes to the first member of the greatest merit** among those that qualify. -/
theorem best_eq_choice?
    (hfit : ∀ m ∈ members, m.Qualifies b.registry kinds → FitsInt32 (m.argSum b.registry kinds)) :
    b.best cls members kinds =
      (Member.choice? b.registry kinds members).bind (b.candidate cls kinds) := by
  induction members using List.reverseRecOn with
  | nil => rfl
  | append_singleton members m ih =>
    rw [best_append_single, ih fun m' hm' => hfit m' (List.mem_append_left _ hm')]
    by_cases hq : m.Qualifies b.registry kinds
    · rw [choice?_append_of_qualifies hq]
      rcases htop : Member.choice? b.registry kinds members with _ | top
      · rfl
      · obtain ⟨hmem, htopq⟩ := qualifies_of_choice? htop
        have hfits := hfit m (List.mem_append_right _ List.mem_cons_self) hq
        exact better_candidate htopq hq (hfit top (List.mem_append_left _ hmem) htopq) hfits
    · rw [choice?_append_of_not b.registry hq, candidate_eq_none_iff.2 hq, better_none]

/-! ## What is selected -/

/-- The ways of selecting a member by kinds: under the name that a failure shows, among some members
in the order of their definition, for arguments of some kinds. -/
inductive Selection (b : Binder) (cls : ClassDef σ) :
    String → List (Member σ) → List CellKind → Except Failure (Binding σ) → Prop
  | constructor (args : List Cell) :
      Selection b cls cls.name cls.constructors (args.map Cell.kind) (b.constructor cls args)
  | method (name : String) (args : List Cell) :
      Selection b cls name (cls.methodsNamed name) (args.map Cell.kind) (b.method cls name args)
  | methodForKinds (name : String) (kinds : List CellKind) :
      Selection b cls name (cls.methodsNamed name) kinds (b.methodForKinds cls name kinds)

variable {name : String} {result : Except Failure (Binding σ)}

/-- All ways of selecting a member select among the given ones. -/
theorem Selection.eq_select (h : b.Selection cls name members kinds result) :
    result = b.select cls name members kinds := by
  rcases h <;> rfl

/-- The member that was selected. -/
def chosen? (result : Except Failure (Binding σ)) : Option (Member σ) :=
  result.toOption.bind Binding.member?

/-- A binding remembers its member. -/
theorem member?_of_bind? (h : b.bind? cls m kinds = some bound) : bound.member? = some m := by
  rw [Binding.member?, (target_of_bind? h).1]

/-- There is nothing to select exactly where no member qualifies. -/
theorem Selection.eq_error_iff (h : b.Selection cls name members kinds result) :
    result = .error (.noOverload cls.name name kinds) ↔
      ∀ m ∈ members, ¬m.Qualifies b.registry kinds := by
  rw [h.eq_select, ← best_eq_none_iff]
  rcases hbest : b.best cls members kinds with _ | x
  · exact iff_of_true (select_of_none hbest) rfl
  · rw [select_of_some hbest]
    exact iff_of_false (by rintro ⟨⟩) (by rintro ⟨⟩)

/-- What is selected is the binding of one of the members, as soon as one qualifies. -/
theorem Selection.exists_chosen (h : b.Selection cls name members kinds result)
    (hq : ∃ m ∈ members, m.Qualifies b.registry kinds) :
    ∃ m ∈ members, ∃ bound, b.bind? cls m kinds = some bound ∧ result = .ok bound ∧
      chosen? result = some m := by
  rw [h.eq_select]
  rcases hbest : b.best cls members kinds with _ | x
  · obtain ⟨m, hm, hq⟩ := hq
    exact absurd hq (best_eq_none_iff.1 hbest m hm)
  · obtain ⟨m, hm, hbind⟩ := exists_member_of_best hbest
    rw [select_of_some hbest]
    exact ⟨m, hm, x.2, hbind, rfl, member?_of_bind? hbind⟩

/-- Which member is selected can be read off what the scan comes to. -/
theorem Selection.chosen?_eq_best (h : b.Selection cls name members kinds result) :
    chosen? result = (outline (b.best cls members kinds)).bind Prod.snd := by
  rw [h.eq_select]
  rcases hbest : b.best cls members kinds with _ | x
  · rw [select_of_none hbest]
    rfl
  · rw [select_of_some hbest]
    rfl

/-- Which member is selected depends on the members that qualify and on their order alone. -/
theorem Selection.chosen?_eq_of_filter {cls' : ClassDef σ} {name' : String}
    {members' : List (Member σ)} {result' : Except Failure (Binding σ)}
    (h : b.Selection cls name members kinds result)
    (h' : b.Selection cls' name' members' kinds result')
    (hsame : (members'.filter fun m => m.Qualifies b.registry kinds) =
      members.filter fun m => m.Qualifies b.registry kinds) :
    chosen? result' = chosen? result := by
  have hbest : b.best cls' members' kinds = b.best cls' members kinds := by
    rw [← best_filter_qualifies, hsame, best_filter_qualifies]
  rw [h'.chosen?_eq_best, h.chosen?_eq_best, hbest, outline_best cls' cls]

/-- Every way of selecting comes to the first member of the greatest merit, as long as the sums of
those that qualify fit. -/
theorem Selection.chosen?_eq (h : b.Selection cls name members kinds result)
    (hfit : ∀ m ∈ members, m.Qualifies b.registry kinds → FitsInt32 (m.argSum b.registry kinds)) :
    chosen? result = Member.choice? b.registry kinds members := by
  rw [h.chosen?_eq_best, best_eq_choice? hfit]
  rcases hchoice : Member.choice? b.registry kinds members with _ | m
  · rfl
  · obtain ⟨bound, hbind⟩ : ∃ bound, b.bind? cls m kinds = some bound :=
      exists_bind?_iff.2 (qualifies_of_choice? hchoice).2
    rw [Option.bind_some, candidate, hbind]
    exact member?_of_bind? hbind

/-- The order of members that qualify matters among those of equal merit alone. -/
theorem merit_choice?_of_perm {r : Registry} {members' : List (Member σ)}
    (h : (members'.filter fun m => m.Qualifies r kinds).Perm
      (members.filter fun m => m.Qualifies r kinds)) :
    (Member.choice? r kinds members').map (Member.merit r kinds) =
      (Member.choice? r kinds members).map (Member.merit r kinds) := by
  rcases hm' : Member.choice? r kinds members' with _ | m'
  · rw [Member.choice?, List.argmax_eq_none] at hm'
    rw [hm', List.nil_perm] at h
    rw [Member.choice?, h]
    rfl
  rcases hm : Member.choice? r kinds members with _ | m
  · rw [Member.choice?, List.argmax_eq_none] at hm
    rw [hm, List.perm_nil] at h
    rw [Member.choice?, h] at hm'
    cases hm'
  have hle : m'.merit r kinds ≤ m.merit r kinds :=
    List.le_of_mem_argmax (h.mem_iff.1 (List.argmax_mem hm')) hm
  have hge : m.merit r kinds ≤ m'.merit r kinds :=
    List.le_of_mem_argmax (h.mem_iff.2 (List.argmax_mem hm)) hm'
  exact congrArg some (le_antisymm hle hge)

/-- Sums that fit do so in any order of the members. -/
theorem fits_of_perm {r : Registry} {members' : List (Member σ)}
    (hfit : ∀ m ∈ members, m.Qualifies r kinds → FitsInt32 (m.argSum r kinds))
    (h : (members'.filter fun m => m.Qualifies r kinds).Perm
      (members.filter fun m => m.Qualifies r kinds)) :
    ∀ m ∈ members', m.Qualifies r kinds → FitsInt32 (m.argSum r kinds) := by
  intro m hm hq
  have hmem := h.mem_iff.1 (List.mem_filter.2 ⟨hm, decide_eq_true hq⟩)
  exact hfit m (List.mem_filter.1 hmem).1 hq

/-- **What is selected is the first member of the greatest merit**, among the constructors, or the
methods of a name, that qualify for the kinds of the arguments, in the order of their definition,
for every registry and every class.

There is the failure that no overload matches exactly if no member qualifies, and the binding of one
of them for these kinds otherwise. Members that do not qualify may be added or be defined anywhere
without an effect on the choice. As long as the scores of the arguments of each member that
qualifies add up to 32 bits, the choice is the first of the greatest merit, so that it is another
one of equal merit at most where those that qualify are defined in another order. -/
theorem chosen?_eq_choice? (b : Binder) (cls : ClassDef σ)
    (h : b.Selection cls name members kinds result) :
    (result = .error (.noOverload cls.name name kinds) ↔
        ∀ m ∈ members, ¬m.Qualifies b.registry kinds) ∧
      ((∃ m ∈ members, m.Qualifies b.registry kinds) → ∃ m ∈ members, ∃ bound,
        b.bind? cls m kinds = some bound ∧ result = .ok bound ∧ chosen? result = some m) ∧
      (∀ cls' name' members' result', b.Selection cls' name' members' kinds result' →
        (members'.filter fun m => m.Qualifies b.registry kinds) =
          (members.filter fun m => m.Qualifies b.registry kinds) →
        chosen? result' = chosen? result) ∧
      ((∀ m ∈ members, m.Qualifies b.registry kinds →
          FitsInt32 (m.argSum b.registry kinds)) →
        chosen? result = Member.choice? b.registry kinds members ∧
          ∀ cls' name' members' result', b.Selection cls' name' members' kinds result' →
            (members'.filter fun m => m.Qualifies b.registry kinds).Perm
              (members.filter fun m => m.Qualifies b.registry kinds) →
            (chosen? result').map (Member.merit b.registry kinds) =
              (chosen? result).map (Member.merit b.registry kinds)) := by
  refine ⟨h.eq_error_iff, h.exists_chosen, ?_, ?_⟩
  · intro cls' name' members' result' h' hsame
    exact h.chosen?_eq_of_filter h' hsame
  · intro hfit
    refine ⟨h.chosen?_eq hfit, ?_⟩
    intro cls' name' members' result' h' hperm
    rw [h'.chosen?_eq (fits_of_perm hfit hperm), h.chosen?_eq hfit, merit_choice?_of_perm hperm]

/-- Methods of one name for a number: one that takes a receiver does not qualify, and of the others
a fixed arity goes before a variadic one, a double before an integer and before any number, and the
first of two equal ones before the other. No truth value is taken by any of them. -/
theorem chosen?_eq_choice?_quote :
    let real : DeclType := .plain (.primitive .double)
    let quote (params : List DeclType) (isStatic isVariadic : Bool) : Member Unit :=
      { name := "quote"
        params := params
        result := real
        isStatic := isStatic
        isVariadic := isVariadic
        body := fun _ _ => pure (.value .null) }
    let cls : ClassDef Unit :=
      { classId := { name := "Book" }
        constructors := []
        methods := [quote [real] false false, quote [.array real] true true,
          quote [.plain .number] true false, quote [.plain (.primitive .int)] true false,
          quote [real] true false, quote [.plain (.boxed .double)] true false]
        fields := [] }
    let b : Binder := { registry := Registry.stock .column }
    chosen? (b.methodForKinds cls "quote" [.number]) = some (quote [real] true false) ∧
      Member.choice? b.registry [.number] cls.methods = some (quote [real] true false) ∧
      b.methodForKinds cls "quote" [.boolean] = .error (.noOverload "Book" "quote" [.boolean]) ∧
      ∀ m ∈ cls.methods, ¬m.Qualifies b.registry [.boolean] := by
  intro real quote cls b
  have hfits : ∀ m ∈ cls.methodsNamed "quote", m.Qualifies b.registry [.number] →
      FitsInt32 (m.argSum b.registry [.number]) := by
    decide +kernel
  obtain ⟨-, -, -, hnumber⟩ := chosen?_eq_choice? b cls (.methodForKinds "quote" [.number])
  obtain ⟨hboolean, -⟩ := chosen?_eq_choice? b cls (.methodForKinds "quote" [.boolean])
  exact ⟨rfl, (hnumber hfits).1.symm, rfl, hboolean.1 rfl⟩

end Binder

end CellMarshal
