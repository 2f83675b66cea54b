import CellMarshal.Converter.Basic

/-!
# Ranking converters

Converters in the order in which they are tried: by falling priority, and in the order in which they
were registered where priorities are equal. Main statements: `mem_rank` (ranking neither drops nor
adds a converter), and `rank_sorted` (priorities fall).
-/

namespace CellMarshal.Registry

/-- Puts a converter before the first one whose priority is not higher. -/
def insertRanked (c : Converter) : List Converter → List Converter
  | [] => [c]
  | d :: ds => if d.priority ≤ c.priority then c :: d :: ds else d :: insertRanked c ds

/-- The converters by falling priority. -/
def rank (cs : List Converter) : List Converter :=
  cs.foldr insertRanked []

/-- Priorities that do not rise along the list. -/
def IsRanked (cs : List Converter) : Prop :=
  cs.Pairwise fun c d => d.priority ≤ c.priority

/-- Putting a converter in neither drops nor adds another. -/
theorem mem_insertRanked {c d : Converter} {ds : List Converter} :
    c ∈ insertRanked d ds ↔ c = d ∨ c ∈ ds := by
  induction ds with
  | nil => simp [insertRanked]
  | cons e ds ih =>
    rw [insertRanked]
    split
    · simp
    · simp only [List.mem_cons, ih]
      exact or_left_comm

/-- Ranking neither drops nor adds a converter. -/
theorem mem_rank {c : Converter} {cs : List Converter} : c ∈ rank cs ↔ c ∈ cs := by
  induction cs with
  | nil => rfl
  | cons d cs ih =>
    rw [rank, List.foldr_cons, mem_insertRanked, ← rank, ih, List.mem_cons]

/-- Putting a converter in keeps priorities falling. -/
theorem isRanked_insertRanked {c : Converter} {ds : List Converter} (h : IsRanked ds) :
    IsRanked (insertRanked c ds) := by
  induction ds with
  | nil => simp [insertRanked, IsRanked]
  | cons d ds ih =>
    have hd := List.pairwise_cons.1 h
    rw [insertRanked]
    split
    · rename_i hc
      refine List.pairwise_cons.2 ⟨fun e he => ?_, h⟩
      rcases List.mem_cons.1 he with rfl | he
      · exact hc
      · exact Int32.le_trans (hd.1 e he) hc
    · rename_i hc
      refine List.pairwise_cons.2 ⟨fun e he => ?_, ih hd.2⟩
      rcases mem_insertRanked.1 he with rfl | he
      · exact (Int32.le_total d.priority e.priority).resolve_left hc
      · exact hd.1 e he

/-- Priorities fall along a ranking. -/
theorem rank_sorted (cs : List Converter) : IsRanked (rank cs) := by
  induction cs with
  | nil => exact List.Pairwise.nil
  | cons d cs ih => exact isRanked_insertRanked ih

/-- Choosing by a test and putting in a converter that passes it can be done in either order. -/
theorem filter_insertRanked_of_pos {p : Converter → Bool} {c : Converter} {ds : List Converter}
    (hc : p c = true) (hs : IsRanked ds) :
    (insertRanked c ds).filter p = insertRanked c (ds.filter p) := by
  induction ds with
  | nil => simp [insertRanked, hc]
  | cons d ds ih =>
    have hd := List.pairwise_cons.1 hs
    rw [insertRanked]
    split
    · rename_i hle
      rw [List.filter_cons_of_pos hc]
      cases hf : (d :: ds).filter p with
      | nil => rfl
      | cons e es =>
        have he : e ∈ (d :: ds).filter p := by rw [hf]; simp
        have hem := (List.mem_filter.1 he).1
        have : e.priority ≤ c.priority := by
          rcases List.mem_cons.1 hem with rfl | hem
          · exact hle
          · exact Int32.le_trans (hd.1 e hem) hle
        rw [insertRanked, if_pos this]
    · rename_i hle
      by_cases hp : p d = true
      · rw [List.filter_cons_of_pos hp, List.filter_cons_of_pos hp, insertRanked, if_neg hle,
          ih hd.2]
      · rw [List.filter_cons_of_neg hp, List.filter_cons_of_neg hp, ih hd.2]

/-- Choosing by a test drops a converter that fails it, wherever it was put in. -/
theorem filter_insertRanked_of_neg {p : Converter → Bool} {c : Converter} (ds : List Converter)
    (hc : p c = false) : (insertRanked c ds).filter p = ds.filter p := by
  induction ds with
  | nil => simp [insertRanked, hc]
  | cons d ds ih =>
    rw [insertRanked]
    split
    · rw [List.filter_cons_of_neg (by simp [hc])]
    · by_cases hp : p d = true
      · rw [List.filter_cons_of_pos hp, List.filter_cons_of_pos hp, ih]
      · rw [List.filter_cons_of_neg hp, List.filter_cons_of_neg hp, ih]

end CellMarshal.Registry
