import JsxVNode.Directive.Name
import JsxVNode.Proofs.FirstOccurrences

/-!
# Directive names and their parts

The name of a directive is written from its parts. The base name stands after `v-`, and
each modifier after an underscore; with a colon the modifiers follow an argument. The
main statement says that taking the name apart gives the parts back, for any parts
without an underscore. Modifiers that are empty are lost, and so is a repetition.
-/

namespace JsxVNode

/-- What holds of the letters among the first 128 characters holds of every letter. -/
theorem forall_of_isAlpha {P : Char → Prop}
    (h : ∀ code < 128, (Char.ofNat code).isAlpha = true → P (Char.ofNat code)) {c : Char}
    (hc : c.isAlpha = true) : P c := by
  have hcode : c.toNat < 128 := by
    have hbelow {bound : Char} (hle : c.val ≤ bound.val) (hb : bound.toNat < 128) :
        c.toNat < 128 := Nat.lt_of_le_of_lt (UInt32.le_iff_toNat_le.mp hle) hb
    rcases Bool.or_eq_true_iff.mp hc with hupper | hlower
    · exact hbelow (of_decide_eq_true hupper).2 (by decide)
    · exact hbelow (of_decide_eq_true (Bool.and_eq_true_iff.mp hlower).2) (by decide)
  rw [← Char.ofNat_toNat c] at hc ⊢
  exact h c.toNat hcode hc

/-- The lower-case form of a letter is the small letter alone. -/
theorem lowercase_of_isAlpha {c : Char} (h : c.isAlpha = true) :
    Text.lowercase c = [c.toLower] := by
  have hascii : ∀ code < 128, (Char.ofNat code).isAlpha = true →
      Text.lowercase (Char.ofNat code) = [(Char.ofNat code).toLower] := by
    decide +kernel
  exact forall_of_isAlpha (P := fun c => Text.lowercase c = [c.toLower]) hascii h

namespace DirectiveName

/-- The segments of a text are what is between its underscores. -/
theorem segments_eq_splitOn (text : List Char) : segments text = text.splitOn '_' := by
  induction text with
  | nil => rfl
  | cons c text ih =>
    rw [List.splitOn_eq_splitOnP] at ih ⊢
    rw [segments, ih, List.splitOnP_cons_eq_if_modifyHead]
    by_cases hc : c = '_'
    · rw [if_pos hc, if_pos (beq_iff_eq.mpr hc)]
    · rw [if_neg hc, if_neg (mt beq_iff_eq.mp hc)]
      cases hsegments : text.splitOnP (· == '_') with
      | nil => exact absurd hsegments (List.splitOnP_ne_nil _ _)
      | cons segment more => rfl

/-- Parts without an underscore that were written with underscores between them are read back. -/
theorem splitName_intercalate {first : String} {rest : List String}
    (hfirst : '_' ∉ first.toList) (hrest : ∀ text ∈ rest, '_' ∉ text.toList) :
    splitName ("_".intercalate (first :: rest)) = (first, rest) := by
  have hparts : ∀ part ∈ (first :: rest).map String.toList, '_' ∉ part := by
    rw [List.forall_mem_map, List.forall_mem_cons]
    exact ⟨hfirst, hrest⟩
  have hsegments : segments ("_".intercalate (first :: rest)).toList =
      (first :: rest).map String.toList := by
    rw [segments_eq_splitOn, String.toList_intercalate]
    exact List.splitOn_intercalate '_' hparts (List.cons_ne_nil _ _)
  have htexts : ((first :: rest).map String.toList).map String.ofList = first :: rest := by
    simp
  rw [splitName, hsegments, htexts]

/-- A base name after `v-` gets a small first letter. -/
theorem base_hyphened {text : String} (h : text.toList.head?.any Char.isAlpha = true) :
    base ("v-" ++ text) = String.ofList (text.toList.modifyHead Char.toLower) := by
  have hchars : ("v-" ++ text).toList = 'v' :: '-' :: text.toList := String.toList_append
  cases htext : text.toList with
  | nil =>
    rw [htext] at h
    cases h
  | cons c rest =>
    rw [htext] at h
    have hlower := lowercase_of_isAlpha h
    simp [base, hchars, htext, hlower]

/-- The modifiers of a directive are the distinct ones that are not empty, in the order of their
first occurrences. -/
theorem toList_modifiersOf (modifiers : List String) :
    (modifiersOf modifiers).toList = (modifiers.filter (· ≠ "")).eraseDups :=
  NameSet.toList_ofList _

end DirectiveName

/-- An attribute name is written from a base name, modifiers and an argument. Without an argument it
has no colon and the modifiers follow the base name; otherwise they follow the argument, which may
be empty. -/
inductive AttrName.Spells (base : String) (modifiers : List String) :
    Option String → AttrName → Prop where
  | plain {name : Ident} (hname : name.name = "_".intercalate (("v-" ++ base) :: modifiers)) :
      Spells base modifiers none (.plain name)
  | qualified {argument : String} {name : QualifiedName} (hspace : name.space.name = "v-" ++ base)
      (hname : name.name.name = "_".intercalate (argument :: modifiers)) :
      Spells base modifiers (some argument) (.qualified name)

/-- The name of a directive is taken apart into what it was written from. Let the base name start
with a letter, and let no part have an underscore. Then the base name is read back with a small
first letter, the argument if it is not empty, and of the modifiers the distinct ones that are not
empty, in order of first occurrence. -/
theorem DirectiveName.ofAttr_of_spells {base : String} {modifiers : List String}
    {argument : Option String} {attr : AttrName} (h : attr.Spells base modifiers argument)
    (hletter : base.toList.head?.any Char.isAlpha = true) (hbase : '_' ∉ base.toList)
    (hmodifiers : ∀ text ∈ modifiers, '_' ∉ text.toList)
    (hargument : ∀ text ∈ argument, '_' ∉ text.toList) :
    (ofAttr attr).name = String.ofList (base.toList.modifyHead Char.toLower) ∧
      (ofAttr attr).argument = argument.filter (· ≠ "") ∧
      (ofAttr attr).modifiers.toList = (modifiers.filter (· ≠ "")).eraseDups := by
  cases h with
  | plain hname =>
    have hfirst : '_' ∉ ("v-" ++ base).toList := by
      simpa [String.toList_append] using hbase
    simp only [ofAttr, hname, splitName_intercalate hfirst hmodifiers]
    exact ⟨base_hyphened hletter, rfl, toList_modifiersOf modifiers⟩
  | @qualified argument name hspace hname =>
    simp only [ofAttr, hspace, hname, splitName_intercalate (hargument argument rfl) hmodifiers]
    refine ⟨base_hyphened hletter, ?_, toList_modifiersOf modifiers⟩
    rw [Option.filter_some]
    by_cases hempty : argument = ""
    · simp [hempty]
    · simp [hempty]

/-- The names `v-Custom_trim__lazy_trim` and `v-Custom:title_trim__lazy_trim`. -/
theorem DirectiveName.customName_ofAttr_of_spells :
    let modifiers := ["trim", "", "lazy", "trim"]
    let plain : AttrName := .plain (.generated "v-Custom_trim__lazy_trim")
    let qualified : AttrName :=
      .qualified ⟨.dummy, .generated "v-Custom", .generated "title_trim__lazy_trim"⟩
    (plain.Spells "Custom" modifiers none ∧
      (ofAttr plain).name = "custom" ∧ (ofAttr plain).argument = none ∧
      (ofAttr plain).modifiers.toList = ["trim", "lazy"]) ∧
    qualified.Spells "Custom" modifiers (some "title") ∧
      (ofAttr qualified).name = "custom" ∧ (ofAttr qualified).argument = some "title" ∧
      (ofAttr qualified).modifiers.toList = ["trim", "lazy"] := by
  intro modifiers plain qualified
  have hplain : plain.Spells "Custom" modifiers none := .plain (by decide +kernel)
  have hqualified : qualified.Spells "Custom" modifiers (some "title") :=
    .qualified (by decide +kernel) (by decide +kernel)
  have hmodifiers : ∀ text ∈ modifiers, '_' ∉ text.toList := by decide
  exact ⟨⟨hplain, ofAttr_of_spells hplain (by decide) (by decide) hmodifiers (by decide)⟩,
    hqualified, ofAttr_of_spells hqualified (by decide) (by decide) hmodifiers (by decide)⟩

end JsxVNode
