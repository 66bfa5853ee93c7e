import JsxVNode.Compile.Element
import JsxVNode.Proofs.Props.Duplicates

/-!
# Covered properties

A property whose value can change is covered by an analysis that has noted its name,
and by a patch flag whose bits, with the names listed beside it, tell the runtime to
look at it. What an analysis covers the flag made of it covers, and folding repeated
properties leaves covered properties covered.
-/

namespace JsxVNode

namespace PatchFlag

/-- A flag together with the names listed beside it makes the runtime compare the property of a
given name. -/
def Covers (flag : PatchFlag) (names : List String) (name : String) : Prop :=
  flag = bail ∨ flag.contains fullProps = true ∨
    (name = "class" ∧ flag.contains classBinding = true) ∨
    (name = "style" ∧ flag.contains styleBinding = true) ∨
    (flag.contains props = true ∧ name ∈ names)

/-- The names beside a flag matter only if it is written down. -/
theorem Covers.of_names_eq {flag : PatchFlag} {names names' : List String} {name : String}
    (h : flag.Covers names name) (he : flag.isEmpty = false → names' = names) :
    flag.Covers names' name := by
  refine h.imp id (Or.imp id (Or.imp id (Or.imp id fun hp => ?_)))
  have hne : flag.isEmpty = false := by
    cases hi : flag.isEmpty with
    | false => rfl
    | true =>
      rw [beq_iff_eq.mp hi] at hp
      exact absurd hp.1 (by decide)
  rw [he hne]
  exact hp

/-- Bits that are set stay set when others are added. -/
theorem contains_or_left {f g x : PatchFlag} (h : f.contains x = true)
    (hg : g.isNegative = false) (hx : x.isNegative = false) : (f ||| g).contains x = true := by
  have hf : f.isNegative = false := by
    cases hn : f.isNegative with
    | false => rfl
    | true =>
      rw [contains, hn, Bool.true_or, if_pos rfl, beq_iff_eq] at h
      rw [← h, hn] at hx
      cases hx
  have hor : (f ||| g).isNegative = false := by
    have hmsb : (f.bits ||| g.bits).msb = (f.isNegative || g.isNegative) := BitVec.msb_or
    rwa [hf, hg] at hmsb
  rw [contains, hf, hx] at h
  rw [contains, hor, hx]
  simp only [Bool.or_self, Bool.false_eq_true, if_false, beq_iff_eq] at h ⊢
  have hbits : f.bits &&& x.bits = x.bits := congrArg bits h
  have habsorb : x.bits ||| g.bits &&& x.bits = x.bits := by
    ext i hi
    simp
  change (⟨(f.bits ||| g.bits) &&& x.bits⟩ : PatchFlag) = x
  rw [BitVec.and_or_distrib_right, hbits, habsorb]

end PatchFlag

namespace PropsAnalysis

/-- An analysis has noted that the property of a given name can change. -/
def Notes (a : PropsAnalysis) (name : String) : Prop :=
  (name = "class" ∧ a.hasClassBinding = true) ∨ (name = "style" ∧ a.hasStyleBinding = true) ∨
    name ∈ a.dynamicNames.toList

/-- Unknown names are covered by the bit for all props. -/
theorem contains_fullProps {a : PropsAnalysis} (h : a.hasDynamicKeys = true) :
    a.propsFlag.contains .fullProps = true := by
  rw [propsFlag, if_pos h]
  decide

/-- A class that can change has its bit, unless all props are compared anyway. -/
theorem contains_classBinding {a : PropsAnalysis} (hk : a.hasDynamicKeys = false)
    (h : a.hasClassBinding = true) : a.propsFlag.contains .classBinding = true := by
  rw [propsFlag, hk, h]
  cases a.hasStyleBinding <;> cases !a.dynamicNames.isEmpty <;> cases a.hasHydrationEvent <;>
    decide

theorem contains_styleBinding {a : PropsAnalysis} (hk : a.hasDynamicKeys = false)
    (h : a.hasStyleBinding = true) : a.propsFlag.contains .styleBinding = true := by
  rw [propsFlag, hk, h]
  cases a.hasClassBinding <;> cases !a.dynamicNames.isEmpty <;> cases a.hasHydrationEvent <;>
    decide

/-- Listed names have their bit, unless all props are compared anyway. -/
theorem contains_props {a : PropsAnalysis} (hk : a.hasDynamicKeys = false)
    (h : a.dynamicNames.isEmpty = false) : a.propsFlag.contains .props = true := by
  rw [propsFlag, hk, h]
  cases a.hasClassBinding <;> cases a.hasStyleBinding <;> cases a.hasHydrationEvent <;> decide

/-- The bits for the props are among those of the whole flag. -/
theorem contains_patchFlag {a : PropsAnalysis} {x : PatchFlag}
    (h : a.propsFlag.contains x = true) (hx : x.isNegative = false) (directives : Nat) :
    (a.patchFlag directives).contains x = true := by
  unfold patchFlag
  dsimp only
  split
  · exact PatchFlag.contains_or_left h (by decide) hx
  · exact h

end PropsAnalysis

/-- The flag of an element is that of a full comparison, or it has all the bits that the
properties call for. -/
theorem contains_elementFlag (tag : ResolvedTag) (children : Children) (props : ElementProps) :
    elementFlag tag children props = .bail ∨ ∀ x : PatchFlag, x.isNegative = false →
      props.analysis.propsFlag.contains x = true →
      (elementFlag tag children props).contains x = true := by
  unfold elementFlag
  dsimp only
  split
  · split
    · exact Or.inl rfl
    · rename_i hb
      refine Or.inr fun x hx h => ?_
      have hown : (PatchFlag.ofFragment children.items.length
          children.unanalyzable).isNegative = false := by
        cases hu : children.unanalyzable with
        | true => exact absurd (by rw [hu]; rfl) hb
        | false =>
          rw [PatchFlag.ofFragment, if_neg Bool.false_ne_true]
          split <;> decide
      exact PatchFlag.contains_or_left (PropsAnalysis.contains_patchFlag h hx _) hown hx
  · exact Or.inr fun x hx h => PropsAnalysis.contains_patchFlag h hx _

/-- What the analysis of an element has noted is covered by its flag and the names beside it. -/
theorem covers_elementFlag {tag : ResolvedTag} {children : Children} {props : ElementProps}
    {name : String} (h : props.analysis.hasDynamicKeys = true ∨ props.analysis.Notes name) :
    (elementFlag tag children props).Covers
      ((props.analysis.emittedNames? (elementFlag tag children props)).elim [] (·.toList))
      name := by
  obtain hb | hbits := contains_elementFlag tag children props
  · exact Or.inl hb
  · cases hk : props.analysis.hasDynamicKeys with
    | true => exact Or.inr (Or.inl (hbits _ (by decide) (PropsAnalysis.contains_fullProps hk)))
    | false =>
      rw [hk] at h
      obtain ⟨hn, hc⟩ | ⟨hn, hs⟩ | hm := h.resolve_left Bool.false_ne_true
      · have hflag := hbits _ (by decide) (PropsAnalysis.contains_classBinding hk hc)
        exact Or.inr (Or.inr (Or.inl ⟨hn, hflag⟩))
      · have hflag := hbits _ (by decide) (PropsAnalysis.contains_styleBinding hk hs)
        exact Or.inr (Or.inr (Or.inr (Or.inl ⟨hn, hflag⟩)))
      · have hne : props.analysis.dynamicNames.isEmpty = false :=
          List.isEmpty_eq_false_iff.mpr (List.ne_nil_of_mem hm)
        have hflag := hbits _ (by decide) (PropsAnalysis.contains_props hk hne)
        cases hfull : (elementFlag tag children props).contains .fullProps with
        | true => exact Or.inr (Or.inl hfull)
        | false =>
          refine Or.inr (Or.inr (Or.inr (Or.inr ⟨hflag, ?_⟩)))
          rw [PropsAnalysis.emittedNames?, hflag, hfull, hne]
          exact hm

/-- The names of properties that the runtime handles apart from the others. -/
def isReservedName (name : String) : Bool := name == "key" || name == "ref" || name == "on"

namespace Node

/-- If the value of a property can change, an analysis has noted the name of the property. -/
def NotedBy (a : PropsAnalysis) (property : Node) : Prop :=
  ∀ name, property.propertyName? = some name → isReservedName name = false →
    property.propertyValue.isConstant = false → a.Notes name

/-- Two lists of elements are constant together if both of them are. -/
theorem allConstant_append (first second : List Node) :
    allConstant (first ++ second) = (allConstant first && allConstant second) := by
  induction first with
  | nil => rfl
  | cons node nodes ih => rw [List.cons_append, allConstant, allConstant, ih, Bool.and_assoc]

/-- A value made of constant values is constant. -/
theorem isConstant_foldValue {name : String} {earlier later : Node}
    (he : earlier.isConstant = true) (hl : later.isConstant = true) :
    (foldValue name earlier later).isConstant = true := by
  unfold foldValue
  split
  · split
    · rw [isConstant] at he ⊢
      rw [allConstant_append, he, allConstant, hl]
      rfl
    · rw [arrayOf, isConstant, allConstant, he, allConstant, hl]
      rfl
  · exact hl

/-- A property that another one is folded into has been noted if both were: they have the same
name, and the folded value can change only if one of the two values can. -/
theorem keptByFold_notedBy (a : PropsAnalysis) : KeptByFold (NotedBy a) := by
  intro name earlier later he hl hearlier hlater other ho hr hv
  rw [propertyName?_foldProperty he] at ho
  cases ho
  cases hce : earlier.propertyValue.isConstant with
  | false => exact hearlier name he hr hce
  | true =>
    cases hcl : later.propertyValue.isConstant with
    | false => exact hlater name hl hr hcl
    | true =>
      rw [foldProperty, propertyValue, isConstant_foldValue hce hcl] at hv
      cases hv

/-- Folding repeated properties leaves no value that can change without a note. -/
theorem NotedBy.foldProperties {a : PropsAnalysis} {properties : List Node}
    (h : ∀ property ∈ properties, property.NotedBy a) :
    ∀ property ∈ foldProperties properties, property.NotedBy a :=
  (keptByFold_notedBy a).foldProperties h

end Node

end JsxVNode
