/-!
# Ordered sets of names

A list of distinct strings in the order in which they were first added. Modifiers,
the names of dynamic properties and the sources of imports are kept in such sets:
adding a name twice is the same as adding it once, and nothing is ever reordered.
-/

namespace JsxVNode

/-- Distinct names in order of first occurrence. -/
structure NameSet where
  toList : List String
  nodup : toList.Nodup
  deriving DecidableEq, Repr

namespace NameSet

/-- The set without a name. -/
def empty : NameSet := ⟨[], .nil⟩

instance : Inhabited NameSet := ⟨empty⟩

instance : EmptyCollection NameSet := ⟨empty⟩

/-- Adds a name at the end unless it is there already. -/
def insert (s : NameSet) (name : String) : NameSet :=
  if h : name ∈ s.toList then s
  else ⟨s.toList ++ [name], by
    refine List.nodup_append.mpr ⟨s.nodup, by simp, fun a ha b hb => ?_⟩
    rintro rfl
    exact h (List.mem_singleton.mp hb ▸ ha)⟩

/-- Adds names from first to last. -/
def insertAll (s : NameSet) (names : List String) : NameSet := names.foldl insert s

/-- The distinct names of a list, in order of first occurrence. -/
def ofList (names : List String) : NameSet := empty.insertAll names

/-- Whether the set has no name. -/
def isEmpty (s : NameSet) : Bool := s.toList.isEmpty

@[simp] theorem toList_empty : empty.toList = [] := rfl

theorem toList_insert (s : NameSet) (name : String) :
    (s.insert name).toList = if name ∈ s.toList then s.toList else s.toList ++ [name] := by
  unfold insert
  split <;> rfl

theorem mem_toList_insert {s : NameSet} {name other : String} :
    other ∈ (s.insert name).toList ↔ other ∈ s.toList ∨ other = name := by
  rw [toList_insert]
  split
  · constructor
    · exact Or.inl
    · rintro (h | rfl) <;> assumption
  · simp

theorem insertAll_append (s : NameSet) (names names' : List String) :
    s.insertAll (names ++ names') = (s.insertAll names).insertAll names' :=
  List.foldl_append

theorem mem_toList_insertAll {s : NameSet} {names : List String} {other : String} :
    other ∈ (s.insertAll names).toList ↔ other ∈ s.toList ∨ other ∈ names := by
  induction names generalizing s with
  | nil => simp [insertAll]
  | cons name names ih =>
    have h : s.insertAll (name :: names) = (s.insert name).insertAll names := rfl
    rw [h, ih, mem_toList_insert, List.mem_cons, or_assoc]

theorem isEmpty_insert (s : NameSet) (name : String) : (s.insert name).isEmpty = false := by
  refine List.isEmpty_eq_false_iff.mpr (List.ne_nil_of_mem (a := name) ?_)
  exact mem_toList_insert.mpr (Or.inr rfl)

theorem isEmpty_insertAll (s : NameSet) (names : List String) :
    (s.insertAll names).isEmpty = (s.isEmpty && names.isEmpty) := by
  induction names generalizing s with
  | nil => simp [insertAll]
  | cons name names ih =>
    have h : s.insertAll (name :: names) = (s.insert name).insertAll names := rfl
    rw [h, ih, isEmpty_insert, Bool.false_and, List.isEmpty_cons, Bool.and_false]

end NameSet

end JsxVNode
