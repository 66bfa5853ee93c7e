import JsxVNode.Proofs.Compile.Exchange
import JsxVNode.Proofs.Compile.PropNames
import JsxVNode.Proofs.Directive.Names
import Mathlib.Data.List.Forall2

/-!
# Two spellings of a directive

A directive can be written with a hyphen, `v-model`, or with a capital letter, `vModel`.
The two spellings have the same name, argument and modifiers, and no other test of an
attribute's name tells them apart. So an element compiles to the same node, and makes
the same requests, whichever of them its attributes have. A fault is the same too,
except that one fault quotes the name as it was spelled.
-/

namespace JsxVNode

/-- A text is `v-`, a letter and a rest, and another one is `v`, that letter as a capital, and the
same rest. -/
def Respells (text text' : String) : Prop :=
  ∃ (c : Char) (rest : List Char), c.isAlpha = true ∧
    text = String.ofList ('v' :: '-' :: c :: rest) ∧
    text' = String.ofList ('v' :: c.toUpper :: rest)

/-- The letters and their capitals, as far as directive names look at them. -/
theorem toUpper_of_isAlpha {c : Char} (h : c.isAlpha = true) :
    c.toUpper.isUpper = true ∧ Text.lowercase c.toUpper = Text.lowercase c ∧
      c ≠ '_' ∧ c.toUpper ≠ '_' ∧ c.toUpper ≠ '-' := by
  have hascii : ∀ code < 128, (Char.ofNat code).isAlpha = true →
      (Char.ofNat code).toUpper.isUpper = true ∧
        Text.lowercase (Char.ofNat code).toUpper = Text.lowercase (Char.ofNat code) ∧
        Char.ofNat code ≠ '_' ∧ (Char.ofNat code).toUpper ≠ '_' ∧
        (Char.ofNat code).toUpper ≠ '-' := by
    decide +kernel
  exact forall_of_isAlpha (P := fun c => c.toUpper.isUpper = true ∧
    Text.lowercase c.toUpper = Text.lowercase c ∧ c ≠ '_' ∧ c.toUpper ≠ '_' ∧ c.toUpper ≠ '-')
    hascii h

namespace Respells

variable {text text' : String}

/-- What follows a text does not matter. -/
theorem append (h : Respells text text') (more : String) :
    Respells (text ++ more) (text' ++ more) := by
  obtain ⟨c, rest, hc, rfl, rfl⟩ := h
  refine ⟨c, rest ++ more.toList, hc, ?_, ?_⟩
  · apply String.toList_injective
    simp
  · apply String.toList_injective
    simp

/-- Both spellings are those of a directive. -/
theorem isDirectiveName (h : Respells text text') :
    isDirectiveName text = true ∧ isDirectiveName text' = true := by
  obtain ⟨c, rest, hc, rfl, rfl⟩ := h
  obtain ⟨hupper, _, _, _, hhyphen⟩ := toUpper_of_isAlpha hc
  constructor
  · simp [JsxVNode.isDirectiveName, hc]
  · simp [JsxVNode.isDirectiveName, hhyphen, hupper]

/-- Both spellings have the same base, since its first letter is taken in lower case. -/
theorem base_eq (h : Respells text text') : DirectiveName.base text = DirectiveName.base text' := by
  obtain ⟨c, rest, hc, rfl, rfl⟩ := h
  obtain ⟨_, hlower, _, _, hhyphen⟩ := toUpper_of_isAlpha hc
  simp [DirectiveName.base, hhyphen, hlower]

/-- The first stretches of the two texts are spelled in the two ways as well, and the others are the
same: an underscore comes after the letter. -/
theorem splitName (h : Respells text text') :
    Respells (DirectiveName.splitName text).1 (DirectiveName.splitName text').1 ∧
      (DirectiveName.splitName text).2 = (DirectiveName.splitName text').2 := by
  obtain ⟨c, rest, hc, rfl, rfl⟩ := h
  obtain ⟨_, _, hc', hunderscore, _⟩ := toUpper_of_isAlpha hc
  cases hsegments : DirectiveName.segments rest with
  | nil =>
    simp only [DirectiveName.splitName, DirectiveName.segments, String.toList_ofList, hsegments,
      hc', hunderscore, if_false, Char.reduceEq, List.map_cons, List.map_nil, and_true]
    exact ⟨c, [], hc, rfl, rfl⟩
  | cons segment more =>
    simp only [DirectiveName.splitName, DirectiveName.segments, String.toList_ofList, hsegments,
      hc', hunderscore, if_false, Char.reduceEq, List.map_cons, and_true]
    exact ⟨c, segment, hc, rfl, rfl⟩

end Respells

/-- An attribute name is spelled in the two ways; a name with a colon is so before it. -/
inductive AttrName.Respells : AttrName → AttrName → Prop where
  | plain (name : Ident) {text : String} (h : JsxVNode.Respells name.name text) :
      Respells (.plain name) (.plain { name with name := text })
  | qualified (name : QualifiedName) {text : String}
      (h : JsxVNode.Respells name.space.name text) :
      Respells (.qualified name)
        (.qualified { name with space := { name.space with name := text } })

namespace AttrName.Respells

variable {name name' : AttrName}

theorem spelling (h : name.Respells name') : JsxVNode.Respells name.spelling name'.spelling := by
  cases h with
  | plain name h => exact h
  | qualified name h => exact (h.append ":").append name.name.name

/-- The two spellings name the same directive. -/
theorem ofAttr_eq (h : name.Respells name') :
    DirectiveName.ofAttr name = DirectiveName.ofAttr name' := by
  cases h with
  | plain name h =>
    obtain ⟨hfirst, hrest⟩ := h.splitName
    simp only [DirectiveName.ofAttr, hfirst.base_eq, hrest]
  | qualified name h => simp only [DirectiveName.ofAttr, h.base_eq]

end AttrName.Respells

/-- An attribute stays as it is, or its name is spelled in the other way. -/
inductive Attr.Respells : Attr → Attr → Prop where
  | same (attr : Attr) : Respells attr attr
  | respelled (span : Span) {name name' : AttrName} (h : name.Respells name') (value : AttrValue) :
      Respells (.named span name value) (.named span name' value)

open Compile

/-- No spelling of a directive is the name of an input's type. -/
theorem inputType?_of_respells {attrs attrs' : List Attr}
    (h : List.Forall₂ Attr.Respells attrs attrs') : inputType? attrs = inputType? attrs' := by
  have hattr {attr attr' : Attr} (h : attr.Respells attr') :
      inputType? [attr] = inputType? [attr'] := by
    cases h with
    | same attr => rfl
    | respelled span h value =>
      obtain ⟨hd, hd'⟩ := h.spelling.isDirectiveName
      rw [inputType?_of_isDirectiveName span value hd, inputType?_of_isDirectiveName span value hd']
  induction h with
  | nil => rfl
  | @cons attr attr' attrs attrs' hfirst _ ih =>
    rw [← List.singleton_append, ← List.singleton_append (x := attr'), inputType?_append,
      inputType?_append, hattr hfirst, ih]

/-- A fault without the directive that it quotes as it was spelled. The other faults quote none, or
one that is always spelled in the same way. -/
def Fault.withoutSpelling : Fault → Fault
  | .modelRequiresExpression _ span => .modelRequiresExpression "" span
  | fault => fault

namespace Compile

variable {α β : Type}

/-- Two steps do the same up to a spelling: from every session they leave the same session behind,
and they return the same or end in faults that are the same without the spelling. -/
def SameUpToSpelling (x y : Compile α) : Prop :=
  ∀ s, (outcome x s).1.mapError Fault.withoutSpelling =
      (outcome y s).1.mapError Fault.withoutSpelling ∧
    (outcome x s).2 = (outcome y s).2

namespace SameUpToSpelling

theorem refl (x : Compile α) : SameUpToSpelling x x := fun _ => ⟨rfl, rfl⟩

/-- Steps that do the same up to spelling can be joined. -/
theorem bind {x y : Compile α} {f g : α → Compile β} (hx : SameUpToSpelling x y)
    (hf : ∀ a, SameUpToSpelling (f a) (g a)) : SameUpToSpelling (x >>= f) (y >>= g) := by
  intro s
  obtain ⟨hresult, hsession⟩ := hx s
  rcases hox : outcome x s with ⟨fault | a, s'⟩
  · rcases hoy : outcome y s with ⟨fault' | b, t'⟩
    · rw [hox, hoy] at hresult hsession
      rw [outcome_bind_of_error hox, outcome_bind_of_error hoy]
      exact ⟨congrArg Except.error (Except.error.inj hresult), hsession⟩
    · rw [hox, hoy] at hresult
      cases hresult
  · rcases hoy : outcome y s with ⟨fault' | b, t'⟩
    · rw [hox, hoy] at hresult
      cases hresult
    · rw [hox, hoy] at hresult hsession
      cases hresult
      cases hsession
      rw [Returns.outcome_bind hox, Returns.outcome_bind hoy]
      exact hf a s'

end SameUpToSpelling

variable {span : Span} {name name' : AttrName} {value : AttrValue}

/-- A directive is taken apart in the same way under either spelling, and a fault quotes the one it
was given. -/
theorem parseDirective_of_respells (h : name.Respells name') (compiled : Option Node)
    (tag : ResolvedTag) (attrs : List Attr) :
    SameUpToSpelling (parseDirective span name value compiled tag attrs)
      (parseDirective span name' value compiled tag attrs) := by
  rw [parseDirective_eq, parseDirective_eq, h.ofAttr_eq]
  split
  · exact fun _ => ⟨rfl, rfl⟩
  · exact .refl _

/-- Under either spelling an attribute is sorted in alike. -/
theorem applyAttr_of_respells (ctx : Context) (h : name.Respells name') (compiled : Option Node)
    (tag : ResolvedTag) (attrs : List Attr) (state : PropsState) :
    SameUpToSpelling (applyAttr ctx span name value compiled tag attrs state)
      (applyAttr ctx span name' value compiled tag attrs state) := by
  obtain ⟨hd, hd'⟩ := h.spelling.isDirectiveName
  rw [applyAttr_of_isDirectiveName _ _ _ _ _ _ _ hd, applyAttr_of_isDirectiveName _ _ _ _ _ _ _ hd',
    applyDirective_eq, applyDirective_eq]
  exact (parseDirective_of_respells h compiled tag attrs).bind fun parsed => .refl _

end Compile

/-- A respelled attribute compiles in the same way, whatever its value is. -/
theorem Attr.compile_of_respells (ctx : Context) {attr attr' : Attr} (h : attr.Respells attr')
    (tag : ResolvedTag) (all : List Attr) (state : PropsState) :
    SameUpToSpelling (attr.compile ctx tag all state) (attr'.compile ctx tag all state) := by
  cases h with
  | same attr => exact .refl _
  | respelled span h value =>
    rw [Attr.compile, Attr.compile]
    exact (SameUpToSpelling.refl _).bind fun compiled =>
      applyAttr_of_respells ctx h compiled tag all state

/-- Attributes that are respelled one by one leave the same state. -/
theorem Attr.compileAll_of_respells (ctx : Context) (tag : ResolvedTag) (all : List Attr)
    {attrs attrs' : List Attr} (h : List.Forall₂ Attr.Respells attrs attrs')
    (state : PropsState) :
    SameUpToSpelling (Attr.compileAll ctx tag all state attrs)
      (Attr.compileAll ctx tag all state attrs') := by
  induction h generalizing state with
  | nil => exact .refl _
  | cons hattr _ ih =>
    rw [Attr.compileAll, Attr.compileAll]
    exact (Attr.compile_of_respells ctx hattr tag all state).bind ih

/-- The two spellings of directives are interchangeable. Let some attributes of an element be
respelled, each from `v-`, a letter and a rest to `v`, the capital letter and the same rest. From
every session the two elements compile to the same node or end in the same fault, up to the
spelling that it quotes, and they leave the same imports and comments behind. -/
theorem Jsx.compile_respelled (ctx : Context) (span : Span) (opening : Opening)
    (attrs attrs' : List Attr) (children : List Child) (closing : Option Closing) (s : Session)
    (h : List.Forall₂ Attr.Respells attrs attrs') :
    let hyphened := outcome ((Jsx.element span opening attrs children closing).compile ctx) s
    let capitalized := outcome ((Jsx.element span opening attrs' children closing).compile ctx) s
    hyphened.1.mapError Fault.withoutSpelling = capitalized.1.mapError Fault.withoutSpelling ∧
      hyphened.2 = capitalized.2 := by
  have hsame : SameUpToSpelling ((Jsx.element span opening attrs children closing).compile ctx)
      ((Jsx.element span opening attrs' children closing).compile ctx) := by
    rw [Jsx.compile, Jsx.compile]
    refine (SameUpToSpelling.refl _).bind fun tag => ?_
    refine (SameUpToSpelling.refl _).bind fun items => ?_
    -- All attributes are looked at only for the type of an input.
    rw [Attr.compileAll_congr (inputType?_of_respells h)]
    exact (Attr.compileAll_of_respells ctx tag attrs' h _).bind fun state => .refl _
  exact hsame s

/-- The elements `<a v-foo_bar={x} id={y}/>` and `<a vFoo_bar={x} id={y}/>` compile to the same
node, and `<a v-model/>` and `<a vModel/>` end in the same fault, each quoted as it is spelled. -/
theorem Jsx.sample_compile_respelled :
    let node : Node := .invoke "_withDirectives" [.invoke "_createVNode" [.str "a",
        .objectOf [.pair (.str "id") (.ref "y")], .null, .int 8 .dummy, .arrayOf [.str "id"]],
      .arrayOf [.arrayOf [.invoke "_resolveDirective" [.str "foo"], .ref "x", .undefined,
        .objectOf [.pair (.ref "bar") (.bool true)]]]]
    let compiled (attrs : List Attr) :=
      outcome ((Jsx.element .dummy (.closed "a") attrs [] none).compile .sample) (.new .sample)
    let bare (name : String) : Attr := .named .dummy (.plain (.generated name)) .bare
    (compiled [.braced "v-foo_bar" "x", .braced "id" "y"]).1 = .ok node ∧
      (compiled [.braced "vFoo_bar" "x", .braced "id" "y"]).1.mapError Fault.withoutSpelling =
        .ok node ∧
      (compiled [bare "v-model"]).1 = .error (.modelRequiresExpression "v-model" .dummy) ∧
      (compiled [bare "vModel"]).1 = .error (.modelRequiresExpression "vModel" .dummy) ∧
      (compiled [bare "v-model"]).2 = (compiled [bare "vModel"]).2 := by
  intro node compiled bare
  have hfoo : Respells "v-foo_bar" "vFoo_bar" := ⟨'f', "oo_bar".toList, by decide, rfl, rfl⟩
  have hmodel : Respells "v-model" "vModel" := ⟨'m', "odel".toList, by decide, rfl, rfl⟩
  have hnode : (compiled [.braced "v-foo_bar" "x", .braced "id" "y"]).1 = .ok node := rfl
  have hsame := Jsx.compile_respelled .sample .dummy (.closed "a")
    [.braced "v-foo_bar" "x", .braced "id" "y"] [.braced "vFoo_bar" "x", .braced "id" "y"] [] none
    (.new .sample) (.cons (.respelled _ (.plain _ hfoo) _) (.cons (.same _) .nil))
  have hfaults := Jsx.compile_respelled .sample .dummy (.closed "a") [bare "v-model"]
    [bare "vModel"] [] none (.new .sample) (.cons (.respelled _ (.plain _ hmodel) _) .nil)
  refine ⟨hnode, ?_, rfl, rfl, hfaults.2⟩
  exact hsame.1.symm.trans (congrArg (Except.mapError Fault.withoutSpelling) hnode)

end JsxVNode
