import JsxVNode.Proofs.Props.Duplicates
import Mathlib.Data.List.Induction

/-!
# Runs of properties

The spreads among the properties of an object divide them into runs, and each run is
folded by itself. What a run is folded into can be said without the order in which its
properties are added: the properties whose names have not occurred before, each with
all the values that the run gives to its name. Adding one property to the end of a run
either adds a property to the result or a value to one of its properties, and from this
everything else follows.
-/

namespace JsxVNode.Node

/-- Whether a property has no static name. -/
def isUnnamed (property : Node) : Bool := property.propertyName?.isNone

/-- Whether two properties have the same static name. -/
def sameName (first second : Node) : Bool :=
  first.propertyName?.isSome && first.propertyName? == second.propertyName?

/-- The properties of a run that do not repeat the name of an earlier one, in source order. -/
def firstOccurrences : List Node → List Node
  | [] => []
  | property :: run => property :: (firstOccurrences run).filter (!property.sameName ·)

/-- The values that a run gives to a name, in source order. -/
def valuesOf (name : String) (run : List Node) : List Node :=
  (run.filter (·.propertyName? = some name)).map propertyValue

/-- What a value brings into an array of values: the elements of an array literal, or itself. -/
def spliced : Node → List Node
  | .array _ elements => elements
  | value => [value]

/-- The value that stands for several values of one name. Values that add up follow the first one,
or its elements, in one array; of other values the last one counts. -/
def gatheredValue (name : String) (first : Node) (more : List Node) : Node :=
  if isMergeable name then
    match first with
    | .array span elements => .array span (elements ++ more)
    | _ => arrayOf (first :: more)
  else
    more.getLast?.getD first

/-- A property together with all values that its run gives to its name. A property without a name
and one whose name is not repeated are left as they are. -/
def gathered (run : List Node) (property : Node) : Node :=
  match property.propertyName? with
  | none => property
  | some name =>
    match valuesOf name run with
    | first :: second :: more =>
      .pair property.propertyKey (gatheredValue name first (second :: more))
    | _ => property

/-- What a run is folded into. -/
def foldedRun (run : List Node) : List Node := (firstOccurrences run).map (gathered run)

variable {run : List Node} {property first second : Node} {name : String}

/-- Two properties share a name if and only if some static name is that of both. -/
theorem sameName_iff :
    first.sameName second = true ↔ ∃ name, first.propertyName? = some name ∧
      second.propertyName? = some name := by
  unfold sameName
  cases first.propertyName? with
  | none => simp
  | some name =>
    simp only [Option.isSome_some, Bool.true_and, beq_iff_eq, Option.some.injEq]
    constructor
    · intro h
      exact ⟨name, rfl, h.symm⟩
    · rintro ⟨_, rfl, h⟩
      exact h.symm

theorem mem_of_mem_firstOccurrences (h : property ∈ firstOccurrences run) : property ∈ run := by
  induction run with
  | nil => exact h
  | cons other run ih =>
    rcases List.mem_cons.mp h with rfl | hrest
    · exact List.mem_cons_self
    · exact List.mem_cons_of_mem _ (ih (List.mem_filter.mp hrest).1)

/-- No two first occurrences have the same name. -/
theorem pairwise_firstOccurrences (run : List Node) :
    (firstOccurrences run).Pairwise fun first second => first.sameName second = false := by
  induction run with
  | nil => exact .nil
  | cons property run ih =>
    refine .cons (fun other hother => ?_) (ih.filter _)
    simpa using (List.mem_filter.mp hother).2

/-- Every name of a run occurs for a first time. -/
theorem exists_mem_firstOccurrences (h : property ∈ run) (hn : property.propertyName? = some name) :
    ∃ other ∈ firstOccurrences run, other.propertyName? = some name := by
  induction run with
  | nil => cases h
  | cons first run ih =>
    by_cases hf : first.propertyName? = some name
    · exact ⟨first, List.mem_cons_self, hf⟩
    · have hrest : property ∈ run := by
        rcases List.mem_cons.mp h with rfl | hrest
        · exact absurd hn hf
        · exact hrest
      obtain ⟨other, hother, hname⟩ := ih hrest
      refine ⟨other, List.mem_cons_of_mem _ (List.mem_filter.mpr ⟨hother, ?_⟩), hname⟩
      have hs : ¬ first.sameName other = true := by
        rintro hs
        obtain ⟨shared, hfirst, hshared⟩ := sameName_iff.mp hs
        rw [hname] at hshared
        cases hshared
        exact hf hfirst
      simpa using hs

/-- Whether a property at the end of a run occurs for a first time depends on the names before. -/
theorem firstOccurrences_concat (run : List Node) (property : Node) :
    firstOccurrences (run ++ [property]) =
      firstOccurrences run ++ if run.any (·.sameName property) then [] else [property] := by
  induction run with
  | nil => rfl
  | cons first run ih =>
    rw [List.cons_append, firstOccurrences, ih, List.filter_append, firstOccurrences,
      List.cons_append, List.any_cons]
    by_cases hrun : run.any (·.sameName property) = true
    · simp [hrun]
    · by_cases hfirst : first.sameName property = true
      · simp [hrun, hfirst]
      · simp [hrun, hfirst]

/-- A property of another name adds no value to a name. -/
theorem valuesOf_concat_of_ne (h : property.propertyName? ≠ some name) (run : List Node) :
    valuesOf name (run ++ [property]) = valuesOf name run := by
  simp [valuesOf, h]

/-- A property of the name adds its value after those before it. -/
theorem valuesOf_concat_of_eq (h : property.propertyName? = some name) (run : List Node) :
    valuesOf name (run ++ [property]) = valuesOf name run ++ [property.propertyValue] := by
  simp [valuesOf, h]

theorem valuesOf_eq_nil (h : ∀ property ∈ run, property.propertyName? ≠ some name) :
    valuesOf name run = [] := by
  simpa [valuesOf] using h

/-- Folding one value in is gathering a list of one. -/
theorem foldValue_eq_gatheredValue (name : String) (first later : Node) :
    foldValue name first later = gatheredValue name first [later] := by
  unfold foldValue gatheredValue
  split
  · cases first <;> rfl
  · rfl

/-- A further value joins those that have been gathered. -/
theorem foldValue_gatheredValue (name : String) (first second later : Node) (more : List Node) :
    foldValue name (gatheredValue name first (second :: more)) later =
      gatheredValue name first (second :: more ++ [later]) := by
  unfold foldValue gatheredValue
  split
  · cases first with
    | array span elements => simp
    | _ => simp [arrayOf]
  · have hlast : (second :: more ++ [later]).getLast? = some later := List.getLast?_concat
    rw [hlast]
    rfl

theorem gathered_of_none (h : property.propertyName? = none) (run : List Node) :
    gathered run property = property := by
  unfold gathered
  rw [h]

/-- What a property gathers depends on the values of its name alone. -/
theorem gathered_congr {run' : List Node} (hn : property.propertyName? = some name)
    (h : valuesOf name run = valuesOf name run') :
    gathered run property = gathered run' property := by
  unfold gathered
  rw [hn]
  simp only [h]

/-- A property that is alone with its name stays as it is. -/
theorem gathered_of_valuesOf_eq {value : Node} (hn : property.propertyName? = some name)
    (h : valuesOf name run = [value]) : gathered run property = property := by
  unfold gathered
  rw [hn]
  simp only [h]

/-- Gathering keeps the name of a property. -/
theorem propertyName?_gathered (run : List Node) (property : Node) :
    (gathered run property).propertyName? = property.propertyName? := by
  unfold gathered
  split
  · rfl
  · rename_i name hn
    split
    · rw [hn]
      exact keyName?_propertyKey hn
    · rfl

/-- A property of a run after one more value for its name. -/
theorem gathered_concat {later : Node} (hp : property ∈ run)
    (hn : property.propertyName? = some name) (hl : later.propertyName? = some name) :
    gathered (run ++ [later]) property =
      foldProperty name (gathered run property) later.propertyValue := by
  have hv : property.propertyValue ∈ valuesOf name run := by
    refine List.mem_map_of_mem (List.mem_filter.mpr ⟨hp, ?_⟩)
    exact decide_eq_true hn
  have hconcat := valuesOf_concat_of_eq hl run
  cases hvalues : valuesOf name run with
  | nil =>
    rw [hvalues] at hv
    cases hv
  | cons first more =>
    rw [hvalues] at hv hconcat
    cases more with
    | nil =>
      have hfirst : property.propertyValue = first := List.mem_singleton.mp hv
      rw [gathered_of_valuesOf_eq hn hvalues, foldProperty, hfirst, foldValue_eq_gatheredValue]
      simp only [gathered, hn, hconcat, List.cons_append, List.nil_append]
    | cons second more =>
      have hgathered : gathered run property =
          .pair property.propertyKey (gatheredValue name first (second :: more)) := by
        simp only [gathered, hn, hvalues]
      rw [hgathered, foldProperty, propertyKey, propertyValue, foldValue_gatheredValue]
      simp only [gathered, hn, hconcat, List.cons_append]

/-- A value for another name changes nothing. -/
theorem gathered_concat_of_ne {later : Node} (h : property.sameName later = false) :
    gathered (run ++ [later]) property = gathered run property := by
  cases hn : property.propertyName? with
  | none => rw [gathered_of_none hn, gathered_of_none hn]
  | some name =>
    refine gathered_congr hn (valuesOf_concat_of_ne (fun hl => ?_) run)
    have hs := sameName_iff.mpr ⟨name, hn, hl⟩
    rw [h] at hs
    cases hs

/-- A value finds no property to be folded into if the name does not occur in the run. -/
theorem foldInto?_eq_none {later : Node}
    (h : ∀ property ∈ run, property.propertyName? ≠ some name) :
    foldInto? name later run = none := by
  induction run with
  | nil => rfl
  | cons property run ih =>
    rw [List.forall_mem_cons] at h
    rw [foldInto?, if_neg h.1, ih h.2]
    rfl

/-- A value is folded into no property of another name. -/
theorem map_foldProperty_eq_self {later : Node}
    (h : ∀ property ∈ run, property.propertyName? ≠ some name) :
    (run.map fun property =>
      if property.propertyName? = some name then foldProperty name property later
      else property) = run := by
  conv_rhs => rw [← List.map_id run]
  exact List.map_congr_left fun property hp => if_neg (h property hp)

/-- A property that does not share a name with another one has none or a different one. -/
theorem propertyName?_ne_of_sameName (hs : first.sameName second = false)
    (h : first.propertyName? = some name) : second.propertyName? ≠ some name := by
  intro hsecond
  rw [sameName_iff.mpr ⟨name, h, hsecond⟩] at hs
  cases hs

/-- Among properties with different names a value is folded into the one of its name. -/
theorem foldInto?_eq_some {later : Node}
    (hd : run.Pairwise fun first second => first.sameName second = false)
    (h : ∃ property ∈ run, property.propertyName? = some name) :
    foldInto? name later run = some (run.map fun property =>
      if property.propertyName? = some name then foldProperty name property later
      else property) := by
  induction run with
  | nil =>
    obtain ⟨_, hp, _⟩ := h
    cases hp
  | cons first run ih =>
    by_cases hf : first.propertyName? = some name
    · have hrest : ∀ property ∈ run, property.propertyName? ≠ some name := fun property hp =>
        propertyName?_ne_of_sameName ((List.pairwise_cons.mp hd).1 property hp) hf
      rw [foldInto?, if_pos hf, List.map_cons, if_pos hf, map_foldProperty_eq_self hrest]
    · have hrun : ∃ property ∈ run, property.propertyName? = some name := by
        obtain ⟨property, hp, hn⟩ := h
        rcases List.mem_cons.mp hp with rfl | hrest
        · exact absurd hn hf
        · exact ⟨property, hrest, hn⟩
      rw [foldInto?, if_neg hf, ih (List.pairwise_cons.mp hd).2 hrun, List.map_cons, if_neg hf]
      rfl

/-- A run is folded into properties with different names. -/
theorem pairwise_foldedRun (run : List Node) :
    (foldedRun run).Pairwise fun first second => first.sameName second = false := by
  refine List.pairwise_map.mpr ((pairwise_firstOccurrences run).imp fun {first second} h => ?_)
  unfold sameName at h ⊢
  rw [propertyName?_gathered, propertyName?_gathered]
  exact h

/-- The names of a run are those of what it is folded into. -/
theorem exists_mem_foldedRun_iff :
    (∃ property ∈ foldedRun run, property.propertyName? = some name) ↔
      ∃ property ∈ run, property.propertyName? = some name := by
  constructor
  · rintro ⟨_, hp, hn⟩
    obtain ⟨property, hfirst, rfl⟩ := List.mem_map.mp hp
    rw [propertyName?_gathered] at hn
    exact ⟨property, mem_of_mem_firstOccurrences hfirst, hn⟩
  · rintro ⟨property, hp, hn⟩
    obtain ⟨other, hother, hname⟩ := exists_mem_firstOccurrences hp hn
    refine ⟨gathered run other, List.mem_map_of_mem hother, ?_⟩
    rw [propertyName?_gathered, hname]

/-- A property with a new name, or without one, goes to the end of a run. -/
theorem foldedRun_concat_of_new (h : ∀ other ∈ run, other.sameName property = false) :
    foldedRun (run ++ [property]) = foldedRun run ++ [property] := by
  have hany : ¬ run.any (·.sameName property) = true := by
    simpa using h
  have hself : gathered (run ++ [property]) property = property := by
    cases hn : property.propertyName? with
    | none => exact gathered_of_none hn _
    | some name =>
      have hnone : ∀ other ∈ run, other.propertyName? ≠ some name := by
        intro other hother hname
        have hs := sameName_iff.mpr ⟨name, hname, hn⟩
        rw [h other hother] at hs
        cases hs
      have hvalues := valuesOf_concat_of_eq hn run
      rw [valuesOf_eq_nil hnone] at hvalues
      exact gathered_of_valuesOf_eq hn hvalues
  rw [foldedRun, firstOccurrences_concat, if_neg hany, List.map_append, List.map_singleton, hself]
  congr 1
  refine List.map_congr_left fun other hother => ?_
  exact gathered_concat_of_ne (h other (mem_of_mem_firstOccurrences hother))

/-- A property whose name has occurred adds its value to the first property of the name. -/
theorem foldedRun_concat_of_repeated (hn : property.propertyName? = some name)
    (h : ∃ other ∈ run, other.propertyName? = some name) :
    foldedRun (run ++ [property]) = (foldedRun run).map fun other =>
      if other.propertyName? = some name then foldProperty name other property.propertyValue
      else other := by
  obtain ⟨repeated, hr, hname⟩ := h
  have hany : run.any (·.sameName property) = true :=
    List.any_eq_true.mpr ⟨repeated, hr, sameName_iff.mpr ⟨name, hname, hn⟩⟩
  rw [foldedRun, firstOccurrences_concat, if_pos hany, List.append_nil, foldedRun, List.map_map]
  refine List.map_congr_left fun other hother => ?_
  rw [Function.comp_apply, propertyName?_gathered]
  by_cases ho : other.propertyName? = some name
  · rw [if_pos ho, gathered_concat (mem_of_mem_firstOccurrences hother) ho hn]
  · rw [if_neg ho]
    refine gathered_concat_of_ne (Bool.eq_false_iff.mpr fun hs => ?_)
    obtain ⟨shared, hshared, hp⟩ := sameName_iff.mp hs
    rw [hn] at hp
    cases hp
    exact ho hshared

/-- One more property at the end of a run. -/
theorem addProperty_foldedRun (run : List Node) (property : Node) :
    addProperty (foldedRun run) property = foldedRun (run ++ [property]) := by
  cases hn : property.propertyName? with
  | none =>
    have hnew : ∀ other ∈ run, other.sameName property = false := by
      intro other _
      refine Bool.eq_false_iff.mpr fun hs => ?_
      obtain ⟨name, _, hp⟩ := sameName_iff.mp hs
      rw [hn] at hp
      cases hp
    rw [foldedRun_concat_of_new hnew, addProperty, hn]
  | some name =>
    rw [addProperty, hn]
    by_cases h : ∃ other ∈ run, other.propertyName? = some name
    · have hfold : foldInto? name property.propertyValue (foldedRun run) = some _ :=
        foldInto?_eq_some (pairwise_foldedRun run) (exists_mem_foldedRun_iff.mpr h)
      rw [foldedRun_concat_of_repeated hn h]
      simp only [hfold, Option.getD_some]
    · have hnew : ∀ other ∈ run, other.sameName property = false := by
        intro other hother
        refine Bool.eq_false_iff.mpr fun hs => h ⟨other, hother, ?_⟩
        obtain ⟨shared, hshared, hp⟩ := sameName_iff.mp hs
        rw [hn] at hp
        cases hp
        exact hshared
      have hfold : foldInto? name property.propertyValue (foldedRun run) = none := by
        refine foldInto?_eq_none fun other hother hname => h ?_
        exact exists_mem_foldedRun_iff.mp ⟨other, hother, hname⟩
      rw [foldedRun_concat_of_new hnew]
      simp only [hfold, Option.getD_none]

/-- Adding properties one by one folds them as a run. -/
theorem foldl_addProperty (run : List Node) : run.foldl addProperty [] = foldedRun run := by
  induction run using List.reverseRecOn with
  | nil => rfl
  | append_singleton run property ih =>
    rw [List.foldl_append, ih]
    exact addProperty_foldedRun run property

/-!
# Lists with spreads

Nothing is folded across a spread, so a list is folded run by run, and what holds of a
folded run holds of the whole list between any two of its spreads.
-/

/-- A run has no spreads. -/
def SpreadFree (run : List Node) : Prop := ∀ property ∈ run, property.isSpread = false

/-- The fold of a list without spreads never starts a new run. -/
theorem foldPropertiesAfter_of_spreadFree {before : List Node} (h : SpreadFree run) :
    foldPropertiesAfter before run = run.foldl addProperty before := by
  induction run generalizing before with
  | nil => rfl
  | cons property run ih =>
    have hp := List.forall_mem_cons.mp h
    rw [foldPropertiesAfter, if_neg (Bool.eq_false_iff.mp hp.1), ih hp.2, List.foldl_cons]

/-- The properties of a run without spreads are folded as a run. -/
theorem foldProperties_of_spreadFree (h : SpreadFree run) :
    foldProperties run = foldedRun run := by
  rw [foldProperties, foldPropertiesAfter_of_spreadFree h, foldl_addProperty]

/-- Nothing is folded across a spread. -/
theorem foldPropertiesAfter_append_spread {spread : Node} (hs : spread.isSpread = true)
    (before first second : List Node) :
    foldPropertiesAfter before (first ++ spread :: second) =
      foldPropertiesAfter before first ++ spread :: foldProperties second := by
  induction first generalizing before with
  | nil => simp only [List.nil_append, foldPropertiesAfter, if_pos hs, foldProperties]
  | cons property first ih =>
    rw [List.cons_append, foldPropertiesAfter, foldPropertiesAfter]
    by_cases hp : property.isSpread = true
    · rw [if_pos hp, if_pos hp, ih, List.append_assoc, List.cons_append]
    · rw [if_neg hp, if_neg hp, ih]

/-- A spread is kept in its place, and the lists around it are folded apart. -/
theorem foldProperties_append_spread {spread : Node} (hs : spread.isSpread = true)
    (first second : List Node) :
    foldProperties (first ++ spread :: second) =
      foldProperties first ++ spread :: foldProperties second :=
  foldPropertiesAfter_append_spread hs [] first second

/-- What holds of runs without spreads, and of a run before a spread if it holds of what follows,
holds of all properties. -/
theorem runs_induction {P : List Node → Prop} (single : ∀ run, SpreadFree run → P run)
    (spread : ∀ run spread rest, SpreadFree run → spread.isSpread = true → P rest →
      P (run ++ spread :: rest)) (properties : List Node) : P properties := by
  -- The induction keeps apart the run that has been read since the last spread.
  have hafter (rest run : List Node) (hr : SpreadFree run) : P (run ++ rest) := by
    induction rest generalizing run with
    | nil =>
      rw [List.append_nil]
      exact single run hr
    | cons property rest ih =>
      cases hp : property.isSpread with
      | true => exact spread run property rest hr hp (ih [] (List.forall_mem_nil _))
      | false =>
        have hone : SpreadFree (run ++ [property]) :=
          List.forall_mem_append.mpr ⟨hr, List.forall_mem_singleton.mpr hp⟩
        have hrest := ih _ hone
        rwa [List.append_assoc, List.singleton_append] at hrest
  exact hafter properties [] (List.forall_mem_nil _)

theorem isSpread_gathered (run : List Node) (property : Node) :
    (gathered run property).isSpread = property.isSpread := by
  cases hn : property.propertyName? with
  | none => rw [gathered_of_none hn]
  | some name =>
    have hplain {other : Node} (h : other.propertyName? = some name) : other.isSpread = false := by
      cases other <;> first | rfl | cases h
    rw [hplain hn, hplain ((propertyName?_gathered run property).trans hn)]

/-- Folding a run without spreads brings in none. -/
theorem SpreadFree.foldedRun (h : SpreadFree run) : SpreadFree (foldedRun run) := by
  intro _ hp
  obtain ⟨property, hfirst, rfl⟩ := List.mem_map.mp hp
  rw [isSpread_gathered]
  exact h property (mem_of_mem_firstOccurrences hfirst)

theorem isUnnamed_gathered (run : List Node) (property : Node) :
    (gathered run property).isUnnamed = property.isUnnamed := by
  unfold isUnnamed
  rw [propertyName?_gathered]

/-- Only properties with a name are left out as repeated. -/
theorem filter_isUnnamed_filter (property : Node) (run : List Node) :
    (run.filter (!property.sameName ·)).filter isUnnamed = run.filter isUnnamed := by
  rw [List.filter_filter]
  refine List.filter_congr fun other _ => ?_
  cases hn : other.propertyName? with
  | none => cases hp : property.propertyName? <;> simp [isUnnamed, sameName, hn, hp]
  | some name => simp [isUnnamed, hn]

/-- All properties without a name occur for a first time. -/
theorem filter_isUnnamed_firstOccurrences (run : List Node) :
    (firstOccurrences run).filter isUnnamed = run.filter isUnnamed := by
  induction run with
  | nil => rfl
  | cons property run ih =>
    rw [firstOccurrences, List.filter_cons, List.filter_cons, filter_isUnnamed_filter, ih]

/-- Gathering values leaves the properties without a name as they are. -/
theorem filter_isUnnamed_map_gathered (run properties : List Node) :
    (properties.map (gathered run)).filter isUnnamed = properties.filter isUnnamed := by
  have hcomp : isUnnamed ∘ gathered run = isUnnamed := funext (isUnnamed_gathered run)
  rw [List.filter_map, hcomp]
  conv_rhs => rw [← List.map_id (List.filter _ _)]
  refine List.map_congr_left fun property hp => ?_
  exact gathered_of_none (Option.isNone_iff_eq_none.mp (List.mem_filter.mp hp).2) run

/-- Folding a run keeps its unnamed properties, in their order. -/
theorem filter_isUnnamed_foldedRun (run : List Node) :
    (foldedRun run).filter isUnnamed = run.filter isUnnamed := by
  rw [foldedRun, filter_isUnnamed_map_gathered, filter_isUnnamed_firstOccurrences]

/-- A name occurs for a first time where it occurs first. -/
theorem filter_named_firstOccurrences (name : String) (run : List Node) :
    (firstOccurrences run).filter (·.propertyName? = some name) =
      (run.filter (·.propertyName? = some name)).take 1 := by
  induction run with
  | nil => rfl
  | cons property run ih =>
    rw [firstOccurrences, List.filter_cons, List.filter_cons, List.filter_filter]
    by_cases hp : property.propertyName? = some name
    · have hnone : (firstOccurrences run).filter
          (fun other => decide (other.propertyName? = some name) && !property.sameName other) =
          [] := by
        refine List.filter_eq_nil_iff.mpr fun other _ hother => ?_
        simp [sameName, hp] at hother
        exact hother.2 hother.1.symm
      rw [if_pos (decide_eq_true hp), if_pos (decide_eq_true hp), hnone]
      rfl
    · have hsame : (firstOccurrences run).filter
          (fun other => decide (other.propertyName? = some name) && !property.sameName other) =
          (firstOccurrences run).filter (·.propertyName? = some name) := by
        refine List.filter_congr fun other _ => ?_
        by_cases ho : other.propertyName? = some name
        · simp [sameName, ho, hp]
        · simp [ho]
      rw [if_neg (by simpa using hp), if_neg (by simpa using hp), hsame, ih]

/-- One value is left of the values of a name. -/
theorem valuesOf_foldedRun (name : String) (run : List Node) :
    valuesOf name (foldedRun run) =
      match valuesOf name run with
      | first :: second :: more => [gatheredValue name first (second :: more)]
      | values => values := by
  have hfilter : (foldedRun run).filter (·.propertyName? = some name) =
      ((run.filter (·.propertyName? = some name)).take 1).map (gathered run) := by
    rw [foldedRun, List.filter_map, ← filter_named_firstOccurrences]
    congr 2
    funext property
    rw [Function.comp_apply, propertyName?_gathered]
  have hvalues : valuesOf name run =
      (run.filter (·.propertyName? = some name)).map propertyValue := rfl
  rw [valuesOf, hfilter]
  cases hrun : run.filter (·.propertyName? = some name) with
  | nil =>
    rw [hvalues, hrun]
    rfl
  | cons property rest =>
    rw [hrun] at hvalues
    have hp : property.propertyName? = some name := by
      have hmem : property ∈ run.filter (·.propertyName? = some name) := by
        rw [hrun]
        exact List.mem_cons_self
      simpa using (List.mem_filter.mp hmem).2
    cases rest with
    | nil => simp [hvalues, gathered, hp]
    | cons other rest => simp [hvalues, gathered, hp, propertyValue]

/-- The gathered value lists the first value, taken apart if it is an array, and then the others. -/
theorem spliced_gatheredValue (hm : isMergeable name = true) (first : Node) (more : List Node) :
    (gatheredValue name first more).spliced = first.spliced ++ more := by
  unfold gatheredValue
  rw [if_pos hm]
  cases first <;> rfl

/-- No value of a name whose values add up is lost or moved. -/
theorem exists_spliced_foldedRun (hm : isMergeable name = true) {first : Node} {more : List Node}
    (h : valuesOf name run = first :: more) :
    ∃ value, valuesOf name (foldedRun run) = [value] ∧ value.spliced = first.spliced ++ more := by
  rw [valuesOf_foldedRun, h]
  cases more with
  | nil => exact ⟨first, rfl, (List.append_nil _).symm⟩
  | cons second more => exact ⟨_, rfl, spliced_gatheredValue hm first (second :: more)⟩

/-- Of the values of any other name the last one is left. -/
theorem valuesOf_foldedRun_of_not_mergeable (hm : isMergeable name = false) (run : List Node) :
    valuesOf name (foldedRun run) = (valuesOf name run).getLast?.toList := by
  rw [valuesOf_foldedRun]
  cases valuesOf name run with
  | nil => rfl
  | cons first more =>
    cases more with
    | nil => rfl
    | cons second more =>
      rw [List.getLast?_cons_cons]
      simp [gatheredValue, hm, List.getLast?_cons]

/-- Properties with different names are not folded. -/
theorem foldedRun_of_pairwise
    (h : run.Pairwise fun first second => first.sameName second = false) :
    foldedRun run = run := by
  induction run using List.reverseRecOn with
  | nil => rfl
  | append_singleton run property ih =>
    obtain ⟨hrun, _, hlast⟩ := List.pairwise_append.mp h
    rw [foldedRun_concat_of_new fun other ho => hlast other ho property (List.mem_singleton_self _),
      ih hrun]

/-- A folded run has nothing more to fold. -/
theorem foldedRun_foldedRun (run : List Node) : foldedRun (foldedRun run) = foldedRun run :=
  foldedRun_of_pairwise (pairwise_foldedRun run)

theorem filter_isSpread_of_spreadFree (h : SpreadFree run) : run.filter (·.isSpread) = [] :=
  List.filter_eq_nil_iff.mpr fun property hp => Bool.eq_false_iff.mp (h property hp)

/-- Folding leaves the spreads as they are. -/
theorem filter_isSpread_foldProperties (properties : List Node) :
    (foldProperties properties).filter (·.isSpread) = properties.filter (·.isSpread) := by
  induction properties using runs_induction with
  | single run h =>
    rw [foldProperties_of_spreadFree h, filter_isSpread_of_spreadFree h,
      filter_isSpread_of_spreadFree h.foldedRun]
  | spread run spread rest h hs ih =>
    rw [foldProperties_append_spread hs, foldProperties_of_spreadFree h, List.filter_append,
      List.filter_append, filter_isSpread_of_spreadFree h,
      filter_isSpread_of_spreadFree h.foldedRun, List.filter_cons_of_pos hs,
      List.filter_cons_of_pos hs, ih]

/-- The runs of the folded properties are the folded runs. -/
theorem splitOnP_foldProperties (properties : List Node) :
    (foldProperties properties).splitOnP (·.isSpread) =
      (properties.splitOnP (·.isSpread)).map foldedRun := by
  induction properties using runs_induction with
  | single run h =>
    rw [foldProperties_of_spreadFree h, List.splitOnP_eq_singleton h,
      List.splitOnP_eq_singleton h.foldedRun, List.map_singleton]
  | spread run spread rest h hs ih =>
    rw [foldProperties_append_spread hs, foldProperties_of_spreadFree h,
      List.splitOnP_append_cons _ _ hs, List.splitOnP_append_cons _ _ hs,
      List.splitOnP_eq_singleton h, List.splitOnP_eq_singleton h.foldedRun, ih, List.map_append,
      List.map_singleton]

/-- Folding leaves the properties without a static name as they are. -/
theorem filter_isUnnamed_foldProperties (properties : List Node) :
    (foldProperties properties).filter isUnnamed =
      properties.filter isUnnamed := by
  induction properties using runs_induction with
  | single run h => rw [foldProperties_of_spreadFree h, filter_isUnnamed_foldedRun]
  | spread run spread rest h hs ih =>
    rw [foldProperties_append_spread hs, foldProperties_of_spreadFree h, List.filter_append,
      List.filter_append, filter_isUnnamed_foldedRun, List.filter_cons, List.filter_cons, ih]

/-- Folded properties are not folded any further. -/
theorem foldProperties_foldProperties (properties : List Node) :
    foldProperties (foldProperties properties) = foldProperties properties := by
  induction properties using runs_induction with
  | single run h =>
    rw [foldProperties_of_spreadFree h, foldProperties_of_spreadFree h.foldedRun,
      foldedRun_foldedRun]
  | spread run spread rest h hs ih =>
    rw [foldProperties_append_spread hs, foldProperties_of_spreadFree h,
      foldProperties_append_spread hs, foldProperties_of_spreadFree h.foldedRun,
      foldedRun_foldedRun, ih]

/-- How repeated properties are folded. The spreads stay where they are, and every run between them
is folded by itself: its properties without a static name and the first ones of each name are kept
in their order, a property whose name is not repeated as it is, and any other with all values of its
name. Values that add up stand in one array in their order, and of other values the last is left.
Nothing is folded across a spread, and folding once more changes nothing. -/
theorem foldProperties_folds_runs (properties : List Node) :
    (foldProperties properties).filter (·.isSpread) = properties.filter (·.isSpread) ∧
      (foldProperties properties).splitOnP (·.isSpread) =
        (properties.splitOnP (·.isSpread)).map foldedRun ∧
      (foldProperties properties).filter isUnnamed =
        properties.filter isUnnamed ∧
      (∀ run ∈ properties.splitOnP (·.isSpread), ∀ name,
        (isMergeable name = true → ∀ first more, valuesOf name run = first :: more →
          ∃ value, valuesOf name (foldedRun run) = [value] ∧
            value.spliced = first.spliced ++ more) ∧
        (isMergeable name = false →
          valuesOf name (foldedRun run) = (valuesOf name run).getLast?.toList)) ∧
      (∀ first spread second, spread.isSpread = true → properties = first ++ spread :: second →
        foldProperties properties = foldProperties first ++ spread :: foldProperties second) ∧
      foldProperties (foldProperties properties) = foldProperties properties := by
  refine ⟨filter_isSpread_foldProperties properties, splitOnP_foldProperties properties,
    filter_isUnnamed_foldProperties properties,
    fun run _ name => ⟨fun hm _ _ h => ?_, fun hm => ?_⟩,
    fun first spread second hs h => ?_, foldProperties_foldProperties properties⟩
  · exact exists_spliced_foldedRun hm h
  · exact valuesOf_foldedRun_of_not_mergeable hm run
  · rw [h]
    exact foldProperties_append_spread hs first second

end JsxVNode.Node
