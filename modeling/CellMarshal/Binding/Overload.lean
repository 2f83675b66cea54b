import CellMarshal.Binding.Basic

/-!
# Choosing among members of one name

Every member of the name whose arity fits is tried against the kinds of the arguments, and qualifies
when each argument has a converter for its parameter. Among those that qualify a fixed arity goes
before a variadic one, then the greater sum of converter priorities, then the more specific
parameters, then the earlier definition. Main statements: `Rank.above_iff` (ranks are compared part
by part), `best_nil` and `best_append_single` (the choice goes on from the first to the last), and
`select_of_none`.
-/

namespace CellMarshal

/-- What members are bound by: a registry, and whether panics of bodies become failures. -/
structure Binder where
  registry : Registry
  guarded : Bool := true

variable {σ : Type}

namespace Binder

/-! ## Qualifying -/

/-- The kinds of the arguments after the receiver, where a member takes one: an object, or missing.
-/
def afterReceiver? (m : Member σ) (kinds : List CellKind) : Option (List CellKind) :=
  if m.isStatic then some kinds
  else
    match kinds with
    | .reference :: rest | .missing :: rest => some rest
    | _ => none

/-- Whether a number of arguments fits a member. -/
def fitsArity (m : Member σ) (n : Nat) : Bool :=
  if m.isVariadic then m.fixedParams.length ≤ n else n = m.fixedParams.length

/-- The slot for a parameter and the kind of its argument. A missing argument needs no converter,
unless the parameter is declared as a cell. -/
def slot? (b : Binder) (declared : DeclType) (kind : CellKind) : Option ParamSlot :=
  if kind = .missing ∧ declared.isCell = false then
    some { declared := declared, converter := none }
  else
    (b.registry.reader? declared kind).map fun k => { declared := declared, converter := some k }

/-- What a slot adds to the score. -/
def slotScore (s : ParamSlot) : Int32 :=
  (s.converter.map Converter.priority).getD 0

/-- What a further argument of some kind adds to the score of a variadic member: the priority of the
converter for the component, and nothing for a missing argument. -/
def tailScore? (b : Binder) (component : DeclType) (kind : CellKind) : Option Int32 :=
  if kind = .missing ∧ component.isCell = false then some 0
  else (b.registry.reader? component kind).map Converter.priority

/-- The array of a variadic member, with what the further arguments add to the score. -/
def varargs? (b : Binder) (arrayType : DeclType) (tail : List CellKind) :
    Option (VarargSlot × List Int32) := do
  let component ← arrayType.element?
  let scores ← tail.mapM (b.tailScore? component)
  let k ← b.registry.reader? arrayType .grid
  pure ({ arrayType := arrayType, converter := k }, scores)

/-- Both parts of what a member binds its arguments with: the array of a variadic one included. -/
def tail? (b : Binder) (m : Member σ) (tail : List CellKind) :
    Option (Option VarargSlot × List Int32) :=
  match m.vararg? with
  | none => some (none, [])
  | some arrayType => (b.varargs? arrayType tail).map fun (v, scores) => (some v, scores)

/-- Scores added up from the first to the last. -/
def total (scores : List Int32) : Int32 :=
  scores.foldl (· + ·) 0

/-- Binds a member for arguments of the given kinds, where it qualifies. -/
def bind? (b : Binder) (cls : ClassDef σ) (m : Member σ) (kinds : List CellKind) :
    Option (Binding σ) := do
  let rest ← afterReceiver? m kinds
  guard (fitsArity m rest.length)
  let params ← (m.fixedParams.zip rest).mapM fun p => b.slot? p.1 p.2
  let (varargs, tailScores) ← b.tail? m (rest.drop m.fixedParams.length)
  pure
    { cls := cls
      target := .member m
      takesReceiver := !m.isStatic
      params := params
      varargs := varargs
      resultType := m.result
      plan := .ofType b.registry m.result
      score := total (params.map slotScore ++ tailScores)
      registry := b.registry
      guarded := b.guarded }

/-! ## Choosing -/

/-- What qualifying members are compared by. -/
structure Rank where
  isFixed : Bool
  score : Int32
  /-- The specificities of all parameters, added up; a sum in 32 bits without sign agrees with this
  one as long as it fits. -/
  specificity : Nat
  deriving DecidableEq, Repr

/-- Whether the first rank is above the second. -/
def Rank.above (x y : Rank) : Bool :=
  if x.isFixed = y.isFixed then
    if x.score = y.score then decide (y.specificity < x.specificity)
    else decide (y.score < x.score)
  else x.isFixed

/-- Ranks are compared part by part: the first part that differs decides. -/
theorem Rank.above_iff {x y : Rank} :
    x.above y = true ↔
      (x.isFixed = true ∧ y.isFixed = false) ∨
        (x.isFixed = y.isFixed ∧
          (y.score < x.score ∨ (x.score = y.score ∧ y.specificity < x.specificity))) := by
  unfold above
  split
  · rename_i hf
    split
    · rename_i hs
      simp [hf, hs]
    · rename_i hs
      simp [hf, hs]
  · rename_i hf
    cases hx : x.isFixed <;> cases hy : y.isFixed <;> simp_all

/-- The rank of a bound member. -/
def rankOf (m : Member σ) (bound : Binding σ) : Rank :=
  { isFixed := !m.isVariadic
    score := bound.score
    specificity := DeclType.specificityArgs m.params }

/-- The better of the choice so far and one more member, which has to be above it. -/
def better (best : Option (Rank × Binding σ)) (next : Option (Rank × Binding σ)) :
    Option (Rank × Binding σ) :=
  match best, next with
  | none, next => next
  | best, none => best
  | some x, some y => if y.1.above x.1 then some y else some x

/-- A member with its rank, where it qualifies. -/
def candidate (b : Binder) (cls : ClassDef σ) (kinds : List CellKind) (m : Member σ) :
    Option (Rank × Binding σ) :=
  (b.bind? cls m kinds).map fun bound => (rankOf m bound, bound)

/-- The first member of the highest rank. -/
def best (b : Binder) (cls : ClassDef σ) (members : List (Member σ)) (kinds : List CellKind) :
    Option (Rank × Binding σ) :=
  (members.map (b.candidate cls kinds)).foldl better none

/-- Of no members there is no best one. -/
theorem best_nil (b : Binder) (cls : ClassDef σ) (kinds : List CellKind) :
    b.best cls [] kinds = none := rfl

/-- One more member, defined after the others, is chosen if it is above the choice among them. -/
theorem best_append_single (b : Binder) (cls : ClassDef σ) (members : List (Member σ))
    (m : Member σ) (kinds : List CellKind) :
    b.best cls (members ++ [m]) kinds =
      better (b.best cls members kinds) (b.candidate cls kinds m) := by
  simp [best]

/-- Binds the best of some members of one name. -/
def select (b : Binder) (cls : ClassDef σ) (name : String) (members : List (Member σ))
    (kinds : List CellKind) : Except Failure (Binding σ) :=
  match b.best cls members kinds with
  | some x => .ok x.2
  | none => .error (.noOverload cls.name name kinds)

/-- Where members qualify, the best of them is bound. -/
theorem select_of_some {b : Binder} {cls : ClassDef σ} {name : String} {members : List (Member σ)}
    {kinds : List CellKind} {x : Rank × Binding σ} (h : b.best cls members kinds = some x) :
    b.select cls name members kinds = .ok x.2 := by
  simp [select, h]

/-- Where no member qualifies, the failure names the class, the member and the kinds of the
arguments. -/
theorem select_of_none {b : Binder} {cls : ClassDef σ} {name : String} {members : List (Member σ)}
    {kinds : List CellKind} (h : b.best cls members kinds = none) :
    b.select cls name members kinds = .error (.noOverload cls.name name kinds) := by
  simp [select, h]

/-! ## Binding by name -/

/-- Binds the constructor for the given arguments. -/
def constructor (b : Binder) (cls : ClassDef σ) (args : List Cell) :
    Except Failure (Binding σ) :=
  b.select cls cls.name cls.constructors (args.map Cell.kind)

/-- Binds the method of a name for arguments of the given kinds. -/
def methodForKinds (b : Binder) (cls : ClassDef σ) (name : String) (kinds : List CellKind) :
    Except Failure (Binding σ) :=
  b.select cls name (cls.methodsNamed name) kinds

/-- Binds the method of a name for the given arguments. -/
def method (b : Binder) (cls : ClassDef σ) (name : String) (args : List Cell) :
    Except Failure (Binding σ) :=
  b.methodForKinds cls name (args.map Cell.kind)

/-- Binds a field for reading. A static field takes no argument, any other its receiver. -/
def field (b : Binder) (cls : ClassDef σ) (name : String) (args : List Cell) :
    Except Failure (Binding σ) :=
  match cls.field? name with
  | none => .error (.noOverload cls.name name (args.map Cell.kind))
  | some f =>
    let expected := if f.isStatic then 0 else 1
    if args.length ≠ expected then
      .error (.resolution ("field " ++ cls.name ++ "." ++ name ++ " takes " ++ toString expected ++
        " arguments, got " ++ toString args.length))
    else
      .ok
        { cls := cls
          target := .field f
          takesReceiver := !f.isStatic
          params := []
          varargs := none
          resultType := f.type
          plan := .ofType b.registry f.type
          score := 0
          registry := b.registry
          guarded := b.guarded }

end Binder

end CellMarshal
