import JsxVNode.Proofs.Compile.Steps
import JsxVNode.Proofs.Imports.Requests

/-!
# Compiling makes requests

Whether it returns or fails, compiling a piece of markup changes the imports of the
file by requests alone. If the options name a node factory, the one of the runtime is
not among the requests.
-/

namespace JsxVNode

namespace Compile

variable {α β : Type}

/-- Whatever a step does to the imports, it does by requests. -/
def RequestsOnly (x : Compile α) : Prop :=
  ∀ s, ∃ requests, (outcome x s).2.imports = s.imports.serveAll requests

/-- A step that only makes requests returns with the imports that they lead to. -/
theorem RequestsOnly.exists_requests {x : Compile α} (hx : RequestsOnly x) {s s' : Session}
    {a : α} (h : Returns x s a s') :
    ∃ requests, s'.imports = s.imports.serveAll requests := by
  obtain ⟨requests, hr⟩ := hx s
  rw [h.outcome_eq] at hr
  exact ⟨requests, hr⟩

/-- A step that only makes requests leaves imports behind that extend those before it. -/
theorem RequestsOnly.extends {x : Compile α} (hx : RequestsOnly x) {s s' : Session} {a : α}
    (h : Returns x s a s') : s.imports.Extends s'.imports := by
  obtain ⟨requests, hr⟩ := hx.exists_requests h
  rw [hr]
  exact Imports.extends_serveAll _ _

/-- A step makes requests, and only such as are allowed in a file with the given name for the node
factory in its options. -/
def RequestsWithin (allowed : Option String → Imports.Request → Prop) {α : Type}
    (x : Compile α) : Prop :=
  ∀ s, ∃ requests, (outcome x s).2.imports = s.imports.serveAll requests ∧
    ∀ request ∈ requests, allowed s.imports.pragma request

namespace RequestsWithin

variable {allowed : Option String → Imports.Request → Prop}

theorem requestsOnly {x : Compile α} (h : RequestsWithin allowed x) : RequestsOnly x := by
  intro s
  obtain ⟨requests, hr, _⟩ := h s
  exact ⟨requests, hr⟩

/-- A step that leaves the imports as they are. -/
theorem of_imports_eq {x : Compile α} (h : ∀ s, (outcome x s).2.imports = s.imports) :
    RequestsWithin allowed x :=
  fun s => ⟨[], h s, List.forall_mem_nil _⟩

/-- A single request. -/
theorem of_request {f : Imports → String × Imports} (request : Imports.Request)
    (hf : ∀ imports, (f imports).2 = imports.serve request)
    (ha : ∀ pragma, allowed pragma request) : RequestsWithin allowed (Compile.request f) :=
  fun s => ⟨[request], hf s.imports, List.forall_mem_singleton.mpr (ha _)⟩

/-- One step after another; the second matters only for the values that the first returns. -/
theorem bind_of_returns {x : Compile α} {f : α → Compile β} (hx : RequestsWithin allowed x)
    (hf : ∀ s a s', Returns x s a s' → RequestsWithin allowed (f a)) :
    RequestsWithin allowed (x >>= f) := by
  intro s
  obtain ⟨first, h, hfirst⟩ := hx s
  rcases hr : outcome x s with ⟨fault | a, s'⟩
  · rw [hr] at h
    rw [outcome_bind_of_error hr]
    exact ⟨first, h, hfirst⟩
  · rw [hr] at h
    obtain ⟨second, h', hsecond⟩ := hf s a s' hr s'
    rw [Returns.outcome_bind hr]
    refine ⟨first ++ second, ?_, List.forall_mem_append.mpr ⟨hfirst, fun request hm => ?_⟩⟩
    · rw [Imports.serveAll_append, ← h]
      exact h'
    · have hpragma : s'.imports.pragma = s.imports.pragma := by
        rw [show s'.imports = _ from h, Imports.pragma_serveAll]
      rw [← hpragma]
      exact hsecond request hm

/-- Two steps make allowed requests if each of them does: requests never change the pragma. -/
theorem bind {x : Compile α} {f : α → Compile β} (hx : RequestsWithin allowed x)
    (hf : ∀ a, RequestsWithin allowed (f a)) : RequestsWithin allowed (x >>= f) :=
  hx.bind_of_returns fun _ a _ _ => hf a

end RequestsWithin

/-- The requests for all exports but two are allowed, whatever the options say, and the one for the
node factory is if the options name none. -/
theorem plainSteps_requestsWithin {allowed : Option String → Imports.Request → Prop}
    (hget : ∀ pragma symbol, symbol ≠ .createVNode → symbol ≠ .mergeProps →
      allowed pragma (.runtime symbol))
    (htransformOn : ∀ pragma, allowed pragma .transformOn)
    (hslotTest : ∀ pragma, allowed pragma .slotTest)
    (hfactory : allowed none (.runtime .createVNode)) : PlainSteps (RequestsWithin allowed) where
  pure _ := .of_imports_eq fun _ => rfl
  throw _ := .of_imports_eq fun _ => rfl
  bind := RequestsWithin.bind
  comment _ _ := .of_imports_eq fun _ => rfl
  get symbol hc hm := .of_request (.runtime symbol) (fun _ => rfl) fun pragma =>
    hget pragma symbol hc hm
  transformOn := .of_request .transformOn (fun _ => rfl) htransformOn
  isSlot := .of_request .slotTest (fun _ => rfl) hslotTest
  factory s := by
    rw [outcome_request, Imports.factory]
    cases hp : s.imports.pragma with
    | some pragma => exact ⟨[], rfl, List.forall_mem_nil _⟩
    | none => exact ⟨[.runtime .createVNode], rfl, List.forall_mem_singleton.mpr hfactory⟩

/-- A request is not one for the factory of the runtime, or the options name no factory. -/
def sparesFactory (pragma : Option String) (request : Imports.Request) : Prop :=
  pragma.isSome = true → request ≠ .runtime .createVNode

/-- A step makes requests, and none for the factory of the runtime if the options name one. -/
abbrev MakesRequests {α : Type} (x : Compile α) : Prop := RequestsWithin sparesFactory x

/-- Everything the compiler does makes requests. -/
theorem steps_makesRequests : Steps MakesRequests where
  toPlainSteps := plainSteps_requestsWithin
    (fun _ _ hc _ _ he => hc (Imports.Request.runtime.inj he)) (fun _ _ => by decide)
    (fun _ _ => by decide) fun hp => absurd hp Bool.false_ne_true
  mergeProps := .of_request (.runtime .mergeProps) (fun _ => rfl) fun _ _ => by decide

/-- A step that makes requests returns with imports that they lead to. -/
theorem Returns.leadsTo {x : Compile α} {s s' : Session} {a : α} (h : Returns x s a s')
    (hx : MakesRequests x) : s.imports.LeadsTo s'.imports :=
  hx.requestsOnly.exists_requests h

theorem requestsOnly_transformOn : RequestsOnly (request (·.transformOn)) :=
  steps_makesRequests.transformOn.requestsOnly

theorem requestsOnly_parseDirective (span : Span) (name : AttrName) (attrValue : AttrValue)
    (value : Option Node) (tag : ResolvedTag) (attrs : List Attr) :
    RequestsOnly (parseDirective span name attrValue value tag attrs) :=
  (steps_makesRequests.parseDirective span name attrValue value tag attrs).requestsOnly

/-- Finishing the props argument only makes requests. -/
theorem requestsOnly_finishProps (state : PropsState) : RequestsOnly (finishProps state) :=
  (steps_makesRequests.finishProps state).requestsOnly

theorem requestsOnly_finishElement (ctx : Context) (span : Span) (tag : ResolvedTag)
    (children : Children) (props : ElementProps) :
    RequestsOnly (finishElement ctx span tag children props) :=
  (steps_makesRequests.finishElement ctx span tag children props).requestsOnly

end Compile

open Compile

/-- Compiling a piece of markup changes the imports by requests alone. -/
theorem Jsx.requestsOnly_compile (ctx : Context) (markup : Jsx) :
    RequestsOnly (markup.compile ctx) :=
  (Jsx.steps_compile steps_makesRequests ctx markup).requestsOnly

/-- In a session that requests have led to, local names are distinct after compiling. -/
theorem Jsx.wellFormed_compile {ctx : Context} {markup : Jsx} {options : Options}
    {bindings : Bindings} {s s' : Session} {node : Node}
    (hs : (Imports.new options bindings).LeadsTo s.imports)
    (h : Returns (markup.compile ctx) s node s') : s'.imports.WellFormed := by
  obtain ⟨requests, hr⟩ := hs
  obtain ⟨more, hm⟩ := (Jsx.requestsOnly_compile ctx markup).exists_requests h
  rw [hm, hr]
  exact ((Imports.wellFormed_new options bindings).serveAll requests).serveAll more

theorem AttrValue.requestsOnly_compile (ctx : Context) (value : AttrValue) :
    RequestsOnly (value.compile ctx) :=
  (AttrValue.steps_compile steps_makesRequests ctx value).requestsOnly

end JsxVNode
