import CellMarshal.Registry.Read

/-!
# The classes that a type mentions

A declared type is made of parts, its component or its arguments, and a class occurs in it as its
own class or in a part. What reading goes on to for the elements and the entries of a container is
such a part, or the object type where the container declares none. Main statements: `mentions_iff`,
`elementType_mem` and `entryTypes_mem`.
-/

namespace CellMarshal

namespace DeclType

mutual

/-- Whether a class occurs in a declared type. -/
def mentions (s : RawType) : DeclType → Bool
  | plain t => t == s
  | array c => mentions s c
  | generic t args => t == s || mentionsAny s args

/-- Whether a class occurs in some declared types. -/
def mentionsAny (s : RawType) : List DeclType → Bool
  | [] => false
  | t :: ts => mentions s t || mentionsAny s ts

end

/-- The types that a declared type is made of. -/
def args : DeclType → List DeclType
  | plain _ => []
  | array c => [c]
  | generic _ ts => ts

/-- A class occurs in some types if it occurs in one of them. -/
theorem mentionsAny_eq_any (s : RawType) (ts : List DeclType) :
    mentionsAny s ts = ts.any (mentions s) := by
  induction ts with
  | nil => rfl
  | cons t ts ih => rw [mentionsAny, ih, List.any_cons]

/-- A class occurs in a type as its own class or in a part of it. -/
theorem mentions_iff {s : RawType} {t : DeclType} :
    t.mentions s = true ↔ t.raw? = some s ∨ ∃ p ∈ t.args, p.mentions s = true := by
  rcases t with u | c | ⟨u, ts⟩
  · simp [mentions, raw?, args]
  · simp [mentions, raw?, args]
  · simp [mentions, raw?, args, mentionsAny_eq_any]

/-- The types that a container declares for its elements and entries are parts of it. -/
theorem element?_mem_args {t e : DeclType} (h : t.element? = some e) : e ∈ t.args := by
  unfold element? at h
  split at h
  · cases h
    exact List.mem_singleton_self _
  · exact List.mem_of_mem_head? h
  · exact List.mem_of_mem_head? h
  · exact List.mem_of_mem_head? h
  · cases h

/-- The types of the keys and the values of a map are among its arguments. -/
theorem mapTypes?_mem_args {t k v : DeclType} (h : t.mapTypes? = some (k, v)) :
    k ∈ t.args ∧ v ∈ t.args := by
  unfold mapTypes? at h
  split at h
  · cases h
    exact ⟨List.mem_cons_self, List.mem_cons_of_mem _ List.mem_cons_self⟩
  · cases h

end DeclType

namespace Reading

/-- Elements are read for a part of the type, or for the object type. -/
theorem elementType_mem (t : DeclType) :
    elementType t ∈ t.args ∨ elementType t = .object := by
  rw [elementType]
  rcases h : t.element? with _ | e
  · exact Or.inr rfl
  · exact Or.inl (DeclType.element?_mem_args h)

/-- So are keys and values. -/
theorem entryTypes_mem (t : DeclType) :
    ((entryTypes t).1 ∈ t.args ∨ (entryTypes t).1 = .object) ∧
      ((entryTypes t).2 ∈ t.args ∨ (entryTypes t).2 = .object) := by
  rw [entryTypes]
  rcases h : t.mapTypes? with _ | ⟨k, v⟩
  · exact ⟨Or.inr rfl, Or.inr rfl⟩
  · obtain ⟨hk, hv⟩ := DeclType.mapTypes?_mem_args h
    exact ⟨Or.inl hk, Or.inl hv⟩

end Reading

end CellMarshal
