import CellMarshal.Proofs.Registry.Precedence

/-!
# The levels of a declared type

The converter that writes values of a declared type is looked for level by level, from the type
itself up to the class of all objects. Priorities decide within a level and never across levels. A
hint at a kind of cell holds for all levels together: where a converter of this kind serves any of
them, no other converter counts (`Counts`), not even for a level that only others serve, and
otherwise the hint is as good as none.

Main statements: `walk_ofConverters_eq_some_iff`, `writer?_ofConverters_eq_some_iff`,
`writer?_ofConverters_eq_none_iff` and `resolveFor_by_levels`.
-/

namespace CellMarshal.Registry

/-! ## Levels and hints -/

/-- A converter is of the kind that is hinted at, if there is a hint. -/
def OfHint (hint : Option CellKind) (c : Converter) : Prop :=
  ∀ kind ∈ hint, c.kind = kind

/-- Some converter of a kind of cell serves some level of a type. -/
def Honours (cs : List Converter) (t : DeclType) (kind : CellKind) : Prop :=
  ∃ level ∈ t.lineage, ∃ c ∈ cs, c.serves level = true ∧ c.kind = kind

/-- The converters that count for a type and a hint: those of the kind hinted at, where some level
has one of these, and all otherwise. -/
def Counts (cs : List Converter) (t : DeclType) (hint : Option CellKind) (c : Converter) : Prop :=
  ∀ kind ∈ hint, Honours cs t kind → c.kind = kind

/-- Of the converters that pass a test, the foremost one for the first level that any of them
serves. -/
def IsFirstServer (p : Converter → Prop) (cs : List Converter) (levels : List DeclType)
    (c : Converter) : Prop :=
  ∃ before level after, levels = before ++ level :: after ∧
    (∀ l ∈ before, ∀ d ∈ cs, p d → d.serves l = false) ∧
      IsForemost (fun d => p d ∧ d.serves level = true) cs c

variable {cs : List Converter} {o : Orientation} {t : DeclType} {hint : Option CellKind}
  {kind : CellKind} {c : Converter}

/-- Without a hint all converters count. -/
theorem counts_none : Counts cs t none = OfHint none := by
  funext c
  simp [Counts, OfHint]

/-- A hint that can be honoured leaves the converters of its kind. -/
theorem counts_of_honours (h : Honours cs t kind) :
    Counts cs t (some kind) = OfHint (some kind) := by
  funext c
  simp [Counts, OfHint, h]

/-- A hint that cannot be honoured is dropped. -/
theorem counts_of_not_honours (h : ¬Honours cs t kind) :
    Counts cs t (some kind) = OfHint none := by
  funext c
  simp [Counts, OfHint, h]

/-! ## One level, and one walk -/

/-- What is looked for at a level is a converter of the kind hinted at that serves it. -/
theorem serves_and_ofHint_iff {level : DeclType} :
    (c.serves level && hint.all fun kind => c.kind == kind) = true ↔
      OfHint hint c ∧ c.serves level = true := by
  rw [Bool.and_eq_true, and_comm]
  simp [OfHint, Option.all_eq_true]

/-- The server of a level is the foremost converter that the hint admits and that serves it. -/
theorem server?_ofConverters_eq_some_iff {level : DeclType} :
    (ofConverters cs o).server? hint level = some c ↔
      IsForemost (fun d => OfHint hint d ∧ d.serves level = true) cs c := by
  rw [server?, ofConverters, find?_rank_eq_some_iff]
  simp only [serves_and_ofHint_iff]

/-- A level has no server exactly if no converter that the hint admits serves it. -/
theorem server?_ofConverters_eq_none_iff {level : DeclType} :
    (ofConverters cs o).server? hint level = none ↔
      ∀ d ∈ cs, OfHint hint d → d.serves level = false := by
  rw [server?, ofConverters, find?_rank_eq_none_iff]
  simp only [← Bool.not_eq_true, serves_and_ofHint_iff, not_and]

/-- A walk comes to the foremost converter for the first level that has one. -/
theorem walk_ofConverters_eq_some_iff {levels : List DeclType} :
    (ofConverters cs o).walk hint levels = some c ↔
      IsFirstServer (OfHint hint) cs levels c := by
  rw [walk, List.findSome?_eq_some_iff]
  simp only [server?_ofConverters_eq_some_iff, server?_ofConverters_eq_none_iff]
  constructor
  · rintro ⟨before, level, after, hlevels, hserver, hbefore⟩
    exact ⟨before, level, after, hlevels, hbefore, hserver⟩
  · rintro ⟨before, level, after, hlevels, hbefore, hserver⟩
    exact ⟨before, level, after, hlevels, hserver, hbefore⟩

/-- The walk finds nothing exactly if no level has a server. -/
theorem walk_ofConverters_eq_none_iff {levels : List DeclType} :
    (ofConverters cs o).walk hint levels = none ↔
      ∀ level ∈ levels, ∀ d ∈ cs, OfHint hint d → d.serves level = false := by
  rw [walk, List.findSome?_eq_none_iff]
  simp only [server?_ofConverters_eq_none_iff]

/-! ## Both walks -/

/-- The walk with a hint finds nothing exactly if the hint cannot be honoured. -/
theorem walk_eq_none_iff_not_honours :
    (ofConverters cs o).walk (some kind) t.lineage = none ↔ ¬Honours cs t kind := by
  rw [walk_ofConverters_eq_none_iff]
  simp [Honours, OfHint, imp_not_comm]

/-- The walk with a hint that can be honoured finds a converter. -/
theorem exists_walk_of_honours (h : Honours cs t kind) :
    ∃ c, (ofConverters cs o).walk (some kind) t.lineage = some c :=
  Option.ne_none_iff_exists'.1 (mt walk_eq_none_iff_not_honours.1 (not_not_intro h))

/-- A hint that some level can honour is kept to at all levels. -/
theorem writer?_of_honours (h : Honours cs t kind) :
    (ofConverters cs o).writer? t (some kind) =
      (ofConverters cs o).walk (some kind) t.lineage := by
  obtain ⟨c, hc⟩ := exists_walk_of_honours h
  rw [writer?, hc, Option.some_or]

/-- Any other hint is as good as none. -/
theorem writer?_of_not_honours (h : ¬Honours cs t kind) :
    (ofConverters cs o).writer? t (some kind) = (ofConverters cs o).writer? t none := by
  show Option.or ((ofConverters cs o).walk (some kind) t.lineage) _ = _
  rw [walk_eq_none_iff_not_honours.2 h, Option.none_or]
  rfl

/-- The converter for a type is the foremost of those that count for the first level that has one.
-/
theorem writer?_ofConverters_eq_some_iff :
    (ofConverters cs o).writer? t hint = some c ↔
      IsFirstServer (Counts cs t hint) cs t.lineage c := by
  cases hint with
  | none =>
    rw [counts_none]
    exact walk_ofConverters_eq_some_iff
  | some kind =>
    by_cases h : Honours cs t kind
    · rw [writer?_of_honours h, counts_of_honours h]
      exact walk_ofConverters_eq_some_iff
    · rw [writer?_of_not_honours h, counts_of_not_honours h]
      exact walk_ofConverters_eq_some_iff

/-- There is a converter for a type as soon as one serves any level, whatever the hint. -/
theorem writer?_ofConverters_eq_none_iff :
    (ofConverters cs o).writer? t hint = none ↔
      ∀ level ∈ t.lineage, ∀ d ∈ cs, d.serves level = false := by
  have hall : (ofConverters cs o).writer? t none = none ↔
      ∀ level ∈ t.lineage, ∀ d ∈ cs, d.serves level = false := by
    show (ofConverters cs o).walk none t.lineage = none ↔ _
    rw [walk_ofConverters_eq_none_iff]
    simp [OfHint]
  cases hint with
  | none => exact hall
  | some kind =>
    by_cases h : Honours cs t kind
    · obtain ⟨c, hc⟩ := exists_walk_of_honours h
      rw [writer?_of_honours h, hc]
      refine iff_of_false (by rintro ⟨⟩) fun hnone => ?_
      obtain ⟨level, hl, d, hd, hserves, -⟩ := h
      rw [hnone level hl d hd] at hserves
      cases hserves
    · rw [writer?_of_not_honours h, hall]

/-! ## What the levels and the hint decide -/

/-- Where a level has a converter that counts, what is found serves this level or one below it. -/
theorem exists_writer?_of_counts {before after : List DeclType} {level : DeclType}
    (hlineage : t.lineage = before ++ level :: after)
    (hcounts : ∃ d ∈ cs, Counts cs t hint d ∧ d.serves level = true) :
    ∃ c, (ofConverters cs o).writer? t hint = some c ∧
      ∃ l ∈ before ++ [level], c.serves l = true := by
  obtain ⟨d, hd, hcount, hserves⟩ := hcounts
  rcases hfound : (ofConverters cs o).writer? t hint with _ | c
  · rw [writer?_ofConverters_eq_none_iff] at hfound
    rw [hfound level (by simp [hlineage]) d hd] at hserves
    cases hserves
  · obtain ⟨before', level', after', hlineage', hbefore', hforemost⟩ :=
      writer?_ofConverters_eq_some_iff.1 hfound
    refine ⟨c, rfl, level', ?_, hforemost.passes.2⟩
    -- the level found is no later one, for no converter that counts serves one before it
    rcases places_cases (hlineage.symm.trans hlineage') with hlevel | rfl | hlevel
    · rw [hbefore' level hlevel d hd hcount] at hserves
      cases hserves
    · simp
    · simp [hlevel]

/-- Where a hint can be honoured, what is found is of the kind hinted at. -/
theorem exists_writer?_of_honours (h : Honours cs t kind) :
    ∃ c, (ofConverters cs o).writer? t (some kind) = some c ∧ c.kind = kind := by
  obtain ⟨c, hc⟩ := exists_walk_of_honours h
  obtain ⟨_, _, _, -, -, hforemost⟩ := walk_ofConverters_eq_some_iff.1 hc
  exact ⟨c, by rw [writer?_of_honours h, hc], hforemost.passes.1 kind rfl⟩

/-- **Declared types are written by their first level.** Whatever converters a registry is made of,
it has for a type and a hint the foremost converter of the first level of the type that is served at
all, only converters of the kind hinted at being counted where any level has one of these; and it
fails, with the message that there is no converter, exactly if no converter serves any level. So
what is found for a level with a converter that counts never serves a later level alone, whatever
the priorities, and a hint is followed where some level can honour it and has no effect elsewhere.
-/
theorem resolveFor_by_levels (cs : List Converter) (o : Orientation) (t : DeclType) :
    (∀ hint c, (ofConverters cs o).resolveFor t hint = .ok c ↔
        IsFirstServer (Counts cs t hint) cs t.lineage c) ∧
      (∀ hint f, (ofConverters cs o).resolveFor t hint = .error f ↔
        f = .noConverter t.display (hintWord hint) ∧
          ∀ level ∈ t.lineage, ∀ c ∈ cs, c.serves level = false) ∧
      (∀ hint before level after, t.lineage = before ++ level :: after →
        (∃ d ∈ cs, Counts cs t hint d ∧ d.serves level = true) →
          ∃ c, (ofConverters cs o).resolveFor t hint = .ok c ∧
            ∃ l ∈ before ++ [level], c.serves l = true) ∧
      ∀ kind,
        (Honours cs t kind →
          ∃ c, (ofConverters cs o).resolveFor t (some kind) = .ok c ∧ c.kind = kind) ∧
        (¬Honours cs t kind → ∀ c, (ofConverters cs o).resolveFor t (some kind) = .ok c ↔
          (ofConverters cs o).resolveFor t none = .ok c) := by
  refine ⟨fun hint c => ?_, fun hint f => ?_, fun hint before level after hlineage hcounts => ?_,
    fun kind => ⟨fun h => ?_, fun h c => ?_⟩⟩
  · rw [resolveFor_ok_iff]
    exact writer?_ofConverters_eq_some_iff
  · rw [resolveFor_error_iff, and_comm]
    exact and_congr_right fun _ => writer?_ofConverters_eq_none_iff
  · simp only [resolveFor_ok_iff]
    exact exists_writer?_of_counts hlineage hcounts
  · simp only [resolveFor_ok_iff]
    exact exists_writer?_of_honours h
  · rw [resolveFor_ok_iff, resolveFor_ok_iff, writer?_of_not_honours h]

/-- Objects have the greatest priority and yet the last word: an integer is written as a number or,
if that is asked for, as a narrow integer, and it is handed over only if a reference is asked for.
A text cannot be had, and asking for one changes nothing. -/
theorem resolveFor_by_levels_objects :
    let cs : List Converter := [⟨.objectHandle, .reference, 100⟩, ⟨.numeric .int, .number, -5⟩,
      ⟨.numeric .int, .integer, -7⟩]
    let r := ofConverters cs .column
    let int : DeclType := .plain (.primitive .int)
    IsFirstServer (Counts cs int none) cs int.lineage ⟨.numeric .int, .number, -5⟩ ∧
      (∃ c, r.resolveFor int (some .integer) = .ok c ∧ c.kind = .integer) ∧
      (∃ c, r.resolveFor int (some .reference) = .ok c ∧ c.kind = .reference) ∧
      (∀ c, r.resolveFor int (some .text) = .ok c ↔ r.resolveFor int none = .ok c) ∧
      ∃ c, r.resolveFor int none = .ok c ∧ ∃ l ∈ [int, .plain (.boxed .int)], c.serves l = true := by
  intro cs r int
  obtain ⟨hok, -, hlevel, hhint⟩ := resolveFor_by_levels cs .column int
  have hinteger : Honours cs int .integer := by
    unfold Honours
    decide
  have hreference : Honours cs int .reference := by
    unfold Honours
    decide
  have htext : ¬Honours cs int .text := by
    unfold Honours
    decide
  refine ⟨(hok none _).1 rfl, (hhint .integer).1 hinteger, (hhint .reference).1 hreference,
    (hhint .text).2 htext, hlevel none [int] (.plain (.boxed .int)) _ rfl ?_⟩
  exact ⟨⟨.numeric .int, .number, -5⟩, by decide, by rintro _ ⟨⟩, rfl⟩

end CellMarshal.Registry
