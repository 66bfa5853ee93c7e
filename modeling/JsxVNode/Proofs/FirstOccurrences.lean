import JsxVNode.NameSet
import Mathlib.Data.List.Induction
import Mathlib.Data.List.Nodup

/-!
# First occurrences

The distinct items of a list in the order in which they occur first, as they grow with
the list. They are what a set of names holds that was made from the list.
-/

namespace JsxVNode

variable {α β : Type} [BEq α] [LawfulBEq α] [BEq β] [LawfulBEq β]

/-- One more item is a first occurrence unless it is there already. -/
theorem eraseDups_concat (items : List α) (item : α) :
    (items ++ [item]).eraseDups =
      if item ∈ items then items.eraseDups else items.eraseDups ++ [item] := by
  rw [List.eraseDups_append]
  split
  · rename_i hm
    have hnone : [item].removeAll items = [] := by simp [List.removeAll, hm]
    rw [hnone, List.eraseDups_nil, List.append_nil]
  · rename_i hm
    have hsame : [item].removeAll items = [item] := by simp [List.removeAll, hm]
    rw [hsame]
    rfl

/-- A set made from a list keeps the first occurrences. -/
theorem NameSet.toList_ofList (names : List String) : (NameSet.ofList names).toList =
    names.eraseDups := by
  induction names using List.reverseRecOn with
  | nil => rfl
  | append_singleton names name ih =>
    have hlast : NameSet.ofList (names ++ [name]) = (NameSet.ofList names).insert name :=
      List.foldl_append
    rw [hlast, NameSet.toList_insert, ih, eraseDups_concat]
    simp only [List.mem_eraseDups]

end JsxVNode
