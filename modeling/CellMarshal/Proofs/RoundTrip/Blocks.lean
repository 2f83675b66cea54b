import CellMarshal.Proofs.RoundTrip.Lines

/-!
# Arrays of three and more dimensions

A grid has rows and columns, and arrays may be nested deeper than that. Written for its type, a full
array of any number of dimensions, a block, becomes a grid with one row for each outermost element:
within the row everything is flattened. On the way back a row is taken as one row again at every
level, so that all leaves of the row end up in a single innermost array. The leaves are kept, in
order, and the extents are not: between the first and the last of them, all become one.

So a block comes back as it was if its inner extents are one, which holds for two dimensions always,
and comes back in another shape otherwise, without a failure. Main statements:
`writesLine_of_isBlock` and `read_write_block`.
-/

namespace CellMarshal

/-- The type of arrays in so many dimensions. -/
def DeclType.arrayOf (e : DeclType) : Nat → DeclType
  | 0 => e
  | n + 1 => .array (e.arrayOf n)

namespace Value

/-! ## Blocks -/

/-- A full array with an extent for each dimension, and its leaves in order, the last dimension
running fastest. -/
def IsBlock : List Nat → List Value → Value → Prop
  | [], leaves, v => leaves = [v]
  | n :: extents, leaves, v => ∃ parts vs, v = .array vs ∧ vs.length = n ∧ leaves = parts.flatten ∧
      List.Forall₂ (IsBlock extents) parts vs

/-- The number of leaves in a block. -/
def volume (extents : List Nat) : Nat :=
  extents.foldr (· * ·) 1

/-- Some leaves in one array, within so many arrays of one element. -/
def lineBlock (leaves : List Value) : Nat → Value
  | 0 => .array leaves
  | n + 1 => .array [lineBlock leaves n]

variable {extents extents' : List Nat} {leaves leaves' : List Value} {v w : Value} {n : Nat}

/-- A block has as many leaves as its extents come to. -/
theorem IsBlock.length_eq (h : IsBlock extents leaves v) : leaves.length = volume extents := by
  induction extents generalizing leaves v with
  | nil =>
    rw [IsBlock] at h
    rw [h]
    rfl
  | cons n extents ih =>
    obtain ⟨parts, vs, -, hlength, rfl, hparts⟩ := h
    have hvolume : volume (n :: extents) = n * volume extents := rfl
    have heach : ∀ part ∈ parts, part.length = volume extents := by
      intro part hpart
      obtain ⟨x, -, hx⟩ := exists_of_mem_left hparts hpart
      exact ih hx
    rw [List.length_flatten, List.map_congr_left heach, List.map_const', List.sum_replicate_nat,
      hparts.length_eq, hlength, hvolume]

/-- Blocks of the same extents have as many leaves each. -/
theorem map_length_of_isBlock {parts : List (List Value)} {vs : List Value}
    (h : List.Forall₂ (IsBlock extents) parts vs) :
    parts.map List.length = List.replicate vs.length (volume extents) := by
  rw [← h.length_eq, ← List.map_const']
  apply List.map_congr_left
  intro part hpart
  obtain ⟨v, -, hv⟩ := exists_of_mem_left h hpart
  exact hv.length_eq

/-- A block is determined by its extents and its leaves. -/
theorem IsBlock.unique (h : IsBlock extents leaves v) (h' : IsBlock extents leaves w) : v = w := by
  induction extents generalizing leaves v w with
  | nil =>
    rw [IsBlock] at h h'
    rw [h] at h'
    exact List.singleton_inj.1 h'
  | cons n extents ih =>
    obtain ⟨parts, vs, rfl, hlength, rfl, hparts⟩ := h
    obtain ⟨parts', ws, rfl, hlength', hflat, hparts'⟩ := h'
    have hcut : parts.map List.length = parts'.map List.length := by
      rw [map_length_of_isBlock hparts, map_length_of_isBlock hparts', hlength, hlength']
    cases List.eq_iff_flatten_eq.2 ⟨hflat, hcut⟩
    have hunique : Relator.RightUnique (IsBlock extents) := fun _ _ _ hx hy => ih hx hy
    rw [List.right_unique_forall₂' hunique hparts hparts']

/-- Blocks that are equal have the same extents, unless they are empty. -/
theorem IsBlock.extents_eq (h : IsBlock extents leaves v) (h' : IsBlock extents' leaves' w)
    (hlength : extents.length = extents'.length) (hpos : ∀ k ∈ extents, 0 < k)
    (hsame : v.same w = true) : extents = extents' := by
  induction extents generalizing extents' leaves leaves' v w with
  | nil => exact (List.eq_nil_of_length_eq_zero hlength.symm).symm
  | cons n extents ih =>
    obtain ⟨n', extents', rfl⟩ := List.exists_cons_of_length_eq_add_one hlength.symm
    obtain ⟨parts, vs, rfl, hvs, -, hparts⟩ := h
    obtain ⟨parts', ws, rfl, hws, -, hparts'⟩ := h'
    rw [same, sameItems_iff] at hsame
    have hn : n = n' := by rw [← hvs, ← hws, hsame.length_eq]
    have hne : vs ≠ [] := by
      apply List.ne_nil_of_length_pos
      rw [hvs]
      exact hpos n List.mem_cons_self
    obtain ⟨x, vs, rfl⟩ := List.exists_cons_of_ne_nil hne
    obtain ⟨y, hy, hxy⟩ := exists_of_mem_left hsame List.mem_cons_self
    obtain ⟨part, -, hpart⟩ := exists_of_mem_left hparts.flip List.mem_cons_self
    obtain ⟨part', -, hpart'⟩ := exists_of_mem_left hparts'.flip hy
    have hrest := ih hpart hpart' (Nat.succ.inj hlength)
      (fun k hk => hpos k (List.mem_cons_of_mem _ hk)) hxy
    rw [hn, hrest]

/-- Leaves in one array are a block with that many of them in the last dimension. -/
theorem isBlock_lineBlock (leaves : List Value) (n : Nat) :
    IsBlock (List.replicate n 1 ++ [leaves.length]) leaves (lineBlock leaves n) := by
  induction n with
  | zero =>
    refine ⟨leaves.map fun x => [x], leaves, rfl, rfl, ?_, ?_⟩
    · rw [← List.flatMap_def, List.flatMap_singleton']
    · rw [List.forall₂_map_left_iff, List.forall₂_same]
      exact fun _ _ => rfl
  | succ n ih => exact ⟨[leaves], [lineBlock leaves n], rfl, rfl, by simp, .cons ih .nil⟩

/-- Blocks without extents are their leaves. -/
theorem flatten_of_isBlock {parts : List (List Value)} {vs : List Value}
    (h : List.Forall₂ (IsBlock []) parts vs) : parts.flatten = vs := by
  induction h with
  | nil => rfl
  | cons head _ ih =>
    rw [IsBlock] at head
    rw [List.flatten_cons, head, ih, List.singleton_append]

/-- A block without an extent of zero has leaves. -/
theorem volume_pos (h : ∀ k ∈ extents, 0 < k) : 0 < volume extents := by
  induction extents with
  | nil => exact Nat.one_pos
  | cons n extents ih =>
    have hrest := ih fun k hk => h k (List.mem_cons_of_mem _ hk)
    exact Nat.mul_pos (h n List.mem_cons_self) hrest

/-- Extents of one do not add to the number of leaves. -/
theorem volume_replicate_append (n k : Nat) : volume (List.replicate n 1 ++ [k]) = k := by
  induction n with
  | zero => exact Nat.mul_one k
  | succ n ih =>
    show 1 * volume (List.replicate n 1 ++ [k]) = k
    rw [ih, Nat.one_mul]

/-- Extents are those of the block with all leaves in one array if all but the last are one. -/
theorem replicate_append_volume_eq_iff (hlength : extents.length = n + 1) :
    List.replicate n 1 ++ [volume extents] = extents ↔ ∀ k ∈ extents.dropLast, k = 1 := by
  have hlast : extents.dropLast.length = n := by
    rw [List.length_dropLast, hlength, Nat.add_sub_cancel]
  constructor
  · intro h
    rw [← h, List.dropLast_concat]
    exact fun k hk => List.eq_of_mem_replicate hk
  · intro h
    have hones : extents.dropLast = List.replicate n 1 := List.eq_replicate_iff.2 ⟨hlast, h⟩
    have hne : extents ≠ [] := List.ne_nil_of_length_eq_add_one hlength
    rw [← List.dropLast_concat_getLast hne, hones, volume_replicate_append]

end Value

namespace Registry

open Writing Reading Value

variable {o o' : Orientation} {a b d : Arena} {t u e : DeclType} {make : List Value → Value}
  {v : Value} {vs leaves : List Value} {parts : List (List Value)} {line cells : List Cell}
  {lines : List (List Cell)} {n m : Nat} {extents rest : List Nat}

/-! ## Writing -/

/-- Containers that are written in lines of one length are written as the grid of these lines. -/
theorem OrderedType.write_of_even_lines (ht : OrderedType t u make) (ha : a.Consistent)
    (hw : List.Forall₂ (WritesLine (stock o) (stock o') u e) vs parts) (hne : vs ≠ [])
    (hnested : ∀ v ∈ vs, v.isNested = true) (hpos : 0 < n) (heven : ∀ part ∈ parts, part.length = n)
    (h : RestoresAll (stock o) (stock o') a (parts.flatten.map fun x => (e, x)) cells b) :
    ∃ lines, ((stock o).write t (make vs)).runOn a = (.ok (.grid lines), b) ∧
      lines.flatten = cells ∧
      List.Forall₂ (List.Forall₂ (ReturnsElement (stock o') b e)) parts lines := by
  obtain ⟨lines, hwrite, hflat, hreturns⟩ := ht.write_of_lines ha hw hne hnested h
  have hlength : ∀ line ∈ lines, line.length = n := by
    intro line hline
    obtain ⟨part, hpart, hr⟩ := exists_of_mem_left hreturns.flip hline
    rw [← List.Forall₂.length_eq hr]
    exact heven part hpart
  have hlines : lines.map lineOf = lines := by
    refine (List.map_congr_left fun line hline => ?_).trans (List.map_id' lines)
    apply lineOf_of_ne_nil
    apply List.ne_nil_of_length_pos
    rw [hlength line hline]
    exact hpos
  have hrect : Cell.IsRectangular lines := by
    refine ⟨n, hpos, ?_, hlength⟩
    rintro rfl
    cases hreturns
    cases hw
    exact hne rfl
  rw [hlines, Cell.padded_of_isRectangular hrect] at hwrite
  exact ⟨lines, hwrite, hflat, hreturns⟩

/-- A block is written as a grid with the leaves of each outermost element in one row, given that
these elements are written in lines. -/
theorem write_block_of_lines (ha : a.Consistent)
    (hparts : List.Forall₂ (IsBlock (m :: rest)) parts vs) (hne : vs ≠ [])
    (hpos : ∀ k ∈ m :: rest, 0 < k)
    (hw : List.Forall₂ (WritesLine (stock o) (stock o') (e.arrayOf (rest.length + 1)) e) vs parts)
    (h : RestoresAll (stock o) (stock o') a (parts.flatten.map fun x => (e, x)) cells b) :
    ∃ lines, ((stock o).write (e.arrayOf (rest.length + 2)) (.array vs)).runOn a =
        (.ok (.grid lines), b) ∧ lines.flatten = cells ∧
      List.Forall₂ (List.Forall₂ (ReturnsElement (stock o') b e)) parts lines := by
  have hnested : ∀ v ∈ vs, v.isNested = true := by
    intro v hv
    obtain ⟨part, -, hpart⟩ := exists_of_mem_left hparts.flip hv
    obtain ⟨-, ws, rfl, -⟩ := hpart
    rfl
  have heven : ∀ part ∈ parts, part.length = volume (m :: rest) := by
    intro part hpart
    obtain ⟨v, -, hv⟩ := exists_of_mem_left hparts hpart
    exact hv.length_eq
  exact (OrderedType.array _).write_of_even_lines ha hw hne hnested (volume_pos hpos) heven h

/-- Elements of a block are written in lines, given that blocks of their extents are. -/
theorem writesLines_of_isBlock (hparts : List.Forall₂ (IsBlock extents) parts vs)
    (hflat : ∀ x ∈ parts.flatten, x.isNested = false)
    (h : ∀ {part v}, IsBlock extents part v → (∀ x ∈ part, x.isNested = false) →
      WritesLine (stock o) (stock o') t e v part) :
    List.Forall₂ (WritesLine (stock o) (stock o') t e) vs parts := by
  have hflats : ∀ part ∈ parts, ∀ x ∈ part, x.isNested = false :=
    fun part hpart x hx => hflat x (List.mem_flatten.2 ⟨part, hpart, hx⟩)
  refine (((List.forall₂_and_left parts vs).2 ⟨hflats, hparts⟩).imp ?_).flip
  rintro part v ⟨hpart, hv⟩
  exact h hv hpart

/-- **A block of any number of dimensions is written in one line** where it is an element. The
induction is on the dimensions: the lines of the elements are those that are flattened into one. -/
theorem writesLine_of_isBlock (hv : IsBlock (n :: extents) leaves v)
    (hpos : ∀ k ∈ n :: extents, 0 < k) (hflat : ∀ x ∈ leaves, x.isNested = false) :
    WritesLine (stock o) (stock o') (e.arrayOf (extents.length + 1)) e v leaves := by
  induction extents generalizing n leaves v with
  | nil =>
    obtain ⟨parts, vs, rfl, -, rfl, hparts⟩ := hv
    rw [flatten_of_isBlock hparts] at hflat ⊢
    exact (OrderedType.array e).writesLine hflat
  | cons m rest ih =>
    have hvolume := hv.length_eq
    have hfull := volume_pos hpos
    obtain ⟨parts, vs, rfl, hlength, rfl, hparts⟩ := hv
    intro a b cells ha h
    have hinner : ∀ k ∈ m :: rest, 0 < k := fun k hk => hpos k (List.mem_cons_of_mem _ hk)
    have hw : List.Forall₂ (WritesLine (stock o) (stock o') (e.arrayOf (rest.length + 1)) e)
        vs parts := writesLines_of_isBlock hparts hflat fun hpart hflat => ih hpart hinner hflat
    have hne : vs ≠ [] := by
      apply List.ne_nil_of_length_pos
      rw [hlength]
      exact hpos n List.mem_cons_self
    obtain ⟨lines, hwrite, hcells, -⟩ := write_block_of_lines ha hparts hne hinner hw h
    refine ⟨.grid lines, hwrite, ?_⟩
    have hsome : cells ≠ [] := by
      apply List.ne_nil_of_length_pos
      rw [← (RestoresAll.returns ha h).length_eq, hvolume]
      exact hfull
    rw [asRow, hcells, lineOf_of_ne_nil hsome]

/-! ## Reading -/

/-- A cell that is missing comes back as no value alone. -/
theorem eq_null_of_returnsElement (hc : e.isCell = false)
    (h : ReturnsElement (stock o) d e v .missing) : v = .null := by
  obtain ⟨u, hu, hsame⟩ := h
  rw [readElement_missing hc] at hu
  split at hu
  · cases hu
  · cases hu
    cases v <;> first | rfl | cases hsame

/-- Where there are leaves, and each of them is a value, they do not stand for no elements. -/
theorem ne_missing_of_returns (hc : e.isCell = false) (hnull : ∀ x ∈ leaves, x ≠ .null)
    (h : List.Forall₂ (ReturnsElement (stock o) d e) leaves line) : line ≠ [.missing] := by
  rintro rfl
  obtain ⟨x, hx, hr⟩ := exists_of_mem_left h.flip (List.mem_singleton_self Cell.missing)
  exact hnull x hx (eq_null_of_returnsElement hc hr)

/-- A row is read as one row at every level, so that its leaves come back in one array. -/
theorem returns_lineBlock (he : e.isContainer = false) (hline : line ≠ [.missing])
    (h : List.Forall₂ (ReturnsElement (stock o) d e) leaves line) (n : Nat) :
    Returns (stock o) d (e.arrayOf (n + 1)) (lineBlock leaves n) (.grid [line]) := by
  induction n with
  | zero => exact returns_of_cells (.array e) he hline h
  | succ n ih =>
    have hfull : [line] ≠ [[.missing]] := fun hm => hline (List.singleton_inj.1 hm)
    exact returns_of_lines (.array _) rfl hfull (.cons ih .nil)

/-- The rows of a block come back as an array of blocks with all leaves in one array each. -/
theorem returns_lineBlocks (he : e.isContainer = false) (hc : e.isCell = false)
    (hnull : ∀ x ∈ parts.flatten, x ≠ .null)
    (h : List.Forall₂ (List.Forall₂ (ReturnsElement (stock o) d e)) parts lines) (n : Nat) :
    Returns (stock o) d (e.arrayOf (n + 2)) (.array (parts.map fun part => lineBlock part n))
      (.grid lines) := by
  have hparts : ∀ part ∈ parts, ∀ x ∈ part, x ≠ .null :=
    fun part hpart x hx => hnull x (List.mem_flatten.2 ⟨part, hpart, hx⟩)
  have hfull : lines ≠ [[.missing]] := by
    rintro rfl
    obtain ⟨part, hpart, hr⟩ := exists_of_mem_left h.flip (List.mem_singleton_self [Cell.missing])
    exact ne_missing_of_returns hc (hparts part hpart) hr rfl
  apply returns_of_lines (.array _) rfl hfull
  rw [List.forall₂_map_left_iff]
  refine ((List.forall₂_and_left parts lines).2 ⟨hparts, h⟩).imp ?_
  rintro part line ⟨hpart, hr⟩
  exact returns_lineBlock he (ne_missing_of_returns hc hpart hr) hr n

/-! ## There and back -/

/-- The elements of a block, with all leaves of each in one array, are a block again. -/
theorem isBlock_lineBlocks (hparts : List.Forall₂ (IsBlock (m :: rest)) parts vs)
    (hlength : vs.length = n) :
    IsBlock (n :: (List.replicate rest.length 1 ++ [volume (m :: rest)])) parts.flatten
      (.array (parts.map fun part => lineBlock part rest.length)) := by
  refine ⟨parts, _, rfl, ?_, rfl, ?_⟩
  · rw [List.length_map, hparts.length_eq, hlength]
  · rw [List.forall₂_map_right_iff, List.forall₂_same]
    intro part hpart
    obtain ⟨v, -, hv⟩ := exists_of_mem_left hparts hpart
    rw [← hv.length_eq]
    exact isBlock_lineBlock part rest.length

/-- **Arrays of several dimensions come back with their leaves, and with their inner extents
levelled.** In the registry of the stock table, in either orientation, let a full array of two or
more dimensions, of positive extents, have leaves of a type that is neither a container nor for
cells, which are values and no containers and are restored in order on a consistent arena. Then it
is written as a grid with one row for each outermost element, of all cells in order, and the grid is
read as an array with the same leaves in the same order. Of the extents the first one is kept, the
last one is that of a whole row, and those between them are one.

So what comes back is equal to what was written exactly if all extents but the first and the last
one are one. -/
theorem read_write_block (o o' : Orientation) (ha : a.Consistent) (he : e.isContainer = false)
    (hc : e.isCell = false) (hpos : ∀ k ∈ n :: m :: rest, 0 < k)
    (hv : IsBlock (n :: m :: rest) leaves v) (hflat : ∀ x ∈ leaves, x.isNested = false)
    (hnull : ∀ x ∈ leaves, x ≠ .null)
    (h : RestoresAll (stock o) (stock o') a (leaves.map fun x => (e, x)) cells b) :
    ∃ lines w u, ((stock o).write (e.arrayOf (rest.length + 2)) v).runOn a =
        (.ok (.grid lines), b) ∧ lines.length = n ∧ lines.flatten = cells ∧
      (stock o').read b (e.arrayOf (rest.length + 2)) (.grid lines) = .ok u ∧
      IsBlock (n :: (List.replicate rest.length 1 ++ [volume (m :: rest)])) leaves w ∧
      w.same u = true ∧ (v.same u = true ↔ ∀ k ∈ (m :: rest).dropLast, k = 1) := by
  have hblock := hv
  obtain ⟨parts, vs, rfl, hlength, rfl, hparts⟩ := hv
  have hinner : ∀ k ∈ m :: rest, 0 < k := fun k hk => hpos k (List.mem_cons_of_mem _ hk)
  have hne : vs ≠ [] := by
    apply List.ne_nil_of_length_pos
    rw [hlength]
    exact hpos n List.mem_cons_self
  have hw : List.Forall₂ (WritesLine (stock o) (stock o') (e.arrayOf (rest.length + 1)) e)
      vs parts :=
    writesLines_of_isBlock hparts hflat fun hpart => writesLine_of_isBlock hpart hinner
  obtain ⟨lines, hwrite, hcells, hlines⟩ := write_block_of_lines ha hparts hne hinner hw h
  obtain ⟨u, hread, hsame⟩ := returns_lineBlocks he hc hnull hlines rest.length
  have hlevel := isBlock_lineBlocks hparts hlength
  refine ⟨lines, _, u, hwrite, ?_, hcells, hread, hlevel, hsame, ?_⟩
  · rw [← hlines.length_eq, hparts.length_eq, hlength]
  rw [← replicate_append_volume_eq_iff (n := rest.length) rfl]
  constructor
  · intro hback
    have hboth := same_trans _ _ _ hback (same_symm _ _ hsame)
    have hextents := hblock.extents_eq hlevel (by simp) hpos hboth
    exact (List.cons.inj hextents).2.symm
  · intro hextents
    rw [hextents] at hlevel
    rw [hblock.unique hlevel]
    exact hsame

/-- Truth values in two squares of one row, which are kept, and in two squares of two rows, of which
each becomes one line. -/
theorem read_write_block_flags :
    let flag : DeclType := .plain (.primitive .boolean)
    let line (x y : Bool) : Value := .array [.boolean x, .boolean y]
    let low : Value := .array [.array [line true false], .array [line false true]]
    let cube : Value := .array [.array [line true false, line false true],
      .array [line false false, line true true]]
    let a : Arena := {}
    (∃ lines u, ((stock .row).write (flag.arrayOf 3) low).runOn a = (.ok (.grid lines), a) ∧
      (stock .row).read a (flag.arrayOf 3) (.grid lines) = .ok u ∧ low.same u = true) ∧
      ∃ lines w u, ((stock .column).write (flag.arrayOf 3) cube).runOn a = (.ok (.grid lines), a) ∧
        (stock .column).read a (flag.arrayOf 3) (.grid lines) = .ok u ∧
        IsBlock [2, 1, 4] ([true, false, false, true, false, false, true, true].map .boolean) w ∧
        w.same u = true ∧ cube.same u = false := by
  intro flag line low cube a
  have ha : a.Consistent := Arena.consistent_empty .keep
  have hline : ∀ x y, IsBlock [2] [.boolean x, .boolean y] (line x y) :=
    fun x y => isBlock_lineBlock [.boolean x, .boolean y] 0
  have hrestores : ∀ (o : Orientation) (flags : List Bool), RestoresAll (stock o) (stock o) a
      ((flags.map Value.boolean).map fun x => (flag, x)) (flags.map Cell.boolean) a := by
    intro o flags
    induction flags with
    | nil => exact .nil a
    | cons x flags ih => exact .cons (.value rfl rfl (by cases x <;> rfl)) ih
  constructor
  · have hlow : IsBlock [2, 1, 2] ([true, false, false, true].map .boolean) low :=
      ⟨_, _, rfl, rfl, rfl, .cons ⟨[_], _, rfl, rfl, rfl, .cons (hline _ _) .nil⟩
        (.cons ⟨[_], _, rfl, rfl, rfl, .cons (hline _ _) .nil⟩ .nil)⟩
    obtain ⟨lines, w, u, hwrite, -, -, hread, -, -, hback⟩ :=
      read_write_block .row .row ha rfl rfl (by decide) hlow (by simp [Value.isNested]) (by simp)
        (hrestores .row _)
    exact ⟨lines, u, hwrite, hread, hback.2 (by decide)⟩
  · have hcube : IsBlock [2, 2, 2]
        ([true, false, false, true, false, false, true, true].map .boolean) cube :=
      ⟨_, _, rfl, rfl, rfl, .cons ⟨_, _, rfl, rfl, rfl, .cons (hline _ _) (.cons (hline _ _) .nil)⟩
        (.cons ⟨_, _, rfl, rfl, rfl, .cons (hline _ _) (.cons (hline _ _) .nil)⟩ .nil)⟩
    obtain ⟨lines, w, u, hwrite, -, -, hread, hw, hsame, hback⟩ :=
      read_write_block .column .column ha rfl rfl (by decide) hcube (by simp [Value.isNested])
        (by simp) (hrestores .column _)
    refine ⟨lines, w, u, hwrite, hread, hw, hsame, ?_⟩
    rw [Bool.eq_false_iff]
    exact fun h => absurd (hback.1 h) (by decide)

/-- **A cube comes back as two lines.** No failure tells that this is not what was written. -/
theorem exists_block_reshaped :
    let flag : DeclType := .plain (.primitive .boolean)
    let line (x y : Bool) : Value := .array [.boolean x, .boolean y]
    let cube : Value := .array [.array [line true false, line false true],
      .array [line false false, line true true]]
    let grid : Cell := .grid [[.boolean true, .boolean false, .boolean false, .boolean true],
      [.boolean false, .boolean false, .boolean true, .boolean true]]
    IsBlock [2, 2, 2] ([true, false, false, true, false, false, true, true].map .boolean) cube ∧
      ((stock .column).write (flag.arrayOf 3) cube).runOn {} = (.ok grid, {}) ∧
      ∃ u, (stock .column).read {} (flag.arrayOf 3) grid = .ok u ∧ cube.same u = false := by
  intro flag line cube grid
  have hline : ∀ x y, IsBlock [2] [.boolean x, .boolean y] (line x y) :=
    fun x y => isBlock_lineBlock [.boolean x, .boolean y] 0
  refine ⟨?_, rfl, _, rfl, rfl⟩
  exact ⟨_, _, rfl, rfl, rfl,
    .cons ⟨_, _, rfl, rfl, rfl, .cons (hline _ _) (.cons (hline _ _) .nil)⟩
      (.cons ⟨_, _, rfl, rfl, rfl, .cons (hline _ _) (.cons (hline _ _) .nil)⟩ .nil)⟩

end Registry

end CellMarshal
