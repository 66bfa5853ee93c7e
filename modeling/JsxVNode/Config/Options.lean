import JsxVNode.Config.CustomElements

/-!
# Options

What a caller can decide about the compilation of a file.
-/

namespace JsxVNode

/-- The options of a compilation. -/
structure Options where
  /-- Pass the handlers of an `on` attribute through the runtime's `transformOn`. -/
  transformOn : Bool
  /-- Combine the parts of a props argument with the runtime's `mergeProps` instead of
  spreading them into one object. -/
  mergeProps : Bool
  /-- Let a single object or identifier child of a component stand for its slots. -/
  objectSlots : Bool
  /-- The name called in place of the imported node factory. -/
  pragma : Option String
  customElements : CustomElements
  /-- The module that the runtime functions are imported from. -/
  runtimeModule : String
  /-- The module whose default export is `transformOn`. -/
  transformOnModule : String

namespace Options

/-- The options that apply when nothing is configured. -/
def default : Options where
  transformOn := false
  mergeProps := true
  objectSlots := true
  pragma := none
  customElements := .none
  runtimeModule := "vue"
  transformOnModule := "@vue/babel-helper-vue-transform-on"

instance : Inhabited Options := ⟨default⟩

/-- Adds a predicate that tells custom elements. -/
def withCustomElements (options : Options) (predicate : String → Bool) : Options :=
  { options with customElements := options.customElements.withPredicate predicate }

end Options

end JsxVNode
