import JsxVNode.Proofs.Compile.Coverage
import JsxVNode.Proofs.Compile.Faults
import JsxVNode.Proofs.Compile.Steps
import JsxVNode.Proofs.Imports.Locals

/-!
# Two ways to write a fragment

A fragment can be written with the tag `Fragment` or with the empty tag. The element
requests the fragment of the runtime before its children are compiled, the empty tag
after them. The children cannot tell: what they compile to is the same in a session
that has served one request more. So both ways give the same node or the same fault,
and after a node they leave the same imports behind, though perhaps in another order.
A fault in the children comes before the request of the empty tag, which is then the
only difference.
-/

namespace JsxVNode

open Imports (Request ServedBy)

variable {options : Options} {declared : List String} {extra : List Request}

/-- Two sessions of a file that have added the same comments. The second has served the same
requests as the first and those in `extra`. -/
structure Session.Ahead (options : Options) (declared : List String) (extra : List Request)
    (s t : Session) : Prop where
  served : ∃ requests requests', ServedBy options declared requests s.imports ∧
    ServedBy options declared requests' t.imports ∧
    ∀ request, request ∈ requests' ↔ request ∈ requests ∨ request ∈ extra
  comments : s.comments = t.comments

namespace Session

variable {s t : Session}

/-- The session after a request. -/
def serve (s : Session) (request : Request) : Session :=
  { s with imports := s.imports.serve request }

/-- Both sessions answer a request by the local name of its symbol. -/
theorem Ahead.answers (h : Ahead options declared extra s t) (request : Request) :
    s.imports.answer request = request.localName declared ∧
      t.imports.answer request = request.localName declared := by
  obtain ⟨⟨_, _, hs, ht, _⟩, _⟩ := h
  exact ⟨(hs.serve request).1, (ht.serve request).1⟩

/-- After the same request a session is ahead by as much as before. -/
theorem Ahead.serve (h : Ahead options declared extra s t) (request : Request) :
    Ahead options declared extra (s.serve request) (t.serve request) := by
  obtain ⟨⟨_, _, hs, ht, hmem⟩, hc⟩ := h
  refine ⟨⟨_, _, (hs.serve request).2, (ht.serve request).2, fun other => ?_⟩, hc⟩
  rw [List.mem_append, List.mem_append, hmem, or_right_comm]

/-- A session catches up by the one request it is behind by. -/
theorem Ahead.catchUp {request : Request} (h : Ahead options declared [request] s t) :
    Ahead options declared [] (s.serve request) t := by
  obtain ⟨⟨_, _, hs, ht, hmem⟩, hc⟩ := h
  refine ⟨⟨_, _, (hs.serve request).2, ht, fun other => ?_⟩, hc⟩
  rw [hmem, List.mem_append]
  exact (or_iff_left List.not_mem_nil).symm

/-- Two sessions of the same file have the same pragma. -/
theorem Ahead.pragma (h : Ahead options declared extra s t) :
    s.imports.pragma = t.imports.pragma := by
  obtain ⟨⟨_, _, hs, ht, _⟩, _⟩ := h
  exact hs.pragma.trans ht.pragma.symm

/-- Without more requests a session knows the same. -/
theorem Ahead.agrees (h : Ahead options declared [] s t) : t.imports.Agrees s.imports := by
  obtain ⟨⟨_, _, hs, ht, hmem⟩, _⟩ := h
  exact ht.agrees hs fun request => ((hmem request).trans (or_iff_left List.not_mem_nil)).symm

/-- After a request a session is ahead of what it was. -/
theorem ahead_serve {bindings : Bindings}
    (h : (Imports.new options bindings).LeadsTo s.imports) (request : Request) :
    Ahead options bindings.names [request] s (s.serve request) := by
  obtain ⟨requests, hr⟩ := h
  have hs : ServedBy options bindings.names requests s.imports := by
    rw [hr]
    exact Imports.servedBy_serveAll options bindings requests
  exact ⟨⟨requests, _, hs, (hs.serve request).2, fun _ => List.mem_append⟩, rfl⟩

end Session

namespace Compile

variable {α β : Type}

/-- A step does not notice that a session is ahead of another: it gives the same result from both,
and what it leaves behind is ahead by as much as before. -/
def KeepsAhead (options : Options) (declared : List String) (extra : List Request) {α : Type}
    (x : Compile α) : Prop :=
  ∀ s t, Session.Ahead options declared extra s t →
    (outcome x s).1 = (outcome x t).1 ∧
      Session.Ahead options declared extra (outcome x s).2 (outcome x t).2

/-- Two steps do not notice that a session is ahead if neither of them does. -/
theorem KeepsAhead.bind {x : Compile α} {f : α → Compile β}
    (hx : KeepsAhead options declared extra x)
    (hf : ∀ a, KeepsAhead options declared extra (f a)) :
    KeepsAhead options declared extra (x >>= f) := by
  intro s t h
  obtain ⟨hresult, hahead⟩ := hx s t h
  rw [outcome_bind, outcome_bind]
  rcases hs : outcome x s with ⟨result, s'⟩
  rcases ht : outcome x t with ⟨result', t'⟩
  rw [hs, ht] at hresult hahead
  cases hresult
  cases result with
  | ok a => exact hf a s' t' hahead
  | error fault => exact ⟨rfl, hahead⟩

/-- No request notices that a session is ahead. -/
theorem keepsAhead_request {f : Imports → String × Imports} (r : Request)
    (hf : ∀ imports, f imports = (imports.answer r, imports.serve r)) :
    KeepsAhead options declared extra (request f) := by
  intro s t h
  obtain ⟨hs, ht⟩ := h.answers r
  rw [outcome_request, outcome_request, hf, hf]
  exact ⟨congrArg Except.ok (hs.trans ht.symm), h.serve r⟩

/-- No step of the compiler notices that a session is ahead. -/
theorem steps_keepsAhead (options : Options) (declared : List String) (extra : List Request) :
    Steps (KeepsAhead options declared extra) where
  pure _ _ _ h := ⟨rfl, h⟩
  throw _ _ _ h := ⟨rfl, h⟩
  bind := KeepsAhead.bind
  comment position text s t h :=
    ⟨rfl, h.served, congrArg (· ++ [(⟨position, text⟩ : Comment)]) h.comments⟩
  get symbol _ _ := keepsAhead_request (.runtime symbol) fun _ => rfl
  mergeProps := keepsAhead_request (.runtime .mergeProps) fun _ => rfl
  transformOn := keepsAhead_request .transformOn fun _ => rfl
  isSlot := keepsAhead_request .slotTest fun _ => rfl
  factory s t h := by
    have hp := h.pragma
    rw [outcome_request, outcome_request, Imports.factory, Imports.factory]
    cases ht : t.imports.pragma with
    | some pragma =>
      rw [hp.trans ht]
      exact ⟨rfl, h⟩
    | none =>
      rw [hp.trans ht]
      exact keepsAhead_request (.runtime .createVNode) (fun _ => rfl) s t h

/-- A request can be made before a step or after it, if what follows both cannot fail. The result
is the same; only if the step fails is the request that comes after it missing. -/
theorem outcome_get_comm {bindings : Bindings} {symbol : Export} {x : Compile α}
    {f : String → α → Compile β}
    (hx : KeepsAhead options bindings.names [.runtime symbol] x)
    (hf : ∀ name a, KeepsAhead options bindings.names [] (f name a))
    (hreturns : ∀ name a s, ¬ Fails (f name a) s) {s : Session}
    (hs : (Imports.new options bindings).LeadsTo s.imports) :
    let before := outcome (get symbol >>= fun name => x >>= f name) s
    let after := outcome (x >>= fun a => get symbol >>= fun name => f name a) s
    before.1 = after.1 ∧
      (∀ b, before.1 = .ok b → Session.Ahead options bindings.names [] after.2 before.2) ∧
      ∀ fault, before.1 = .error fault →
        Session.Ahead options bindings.names [.runtime symbol] after.2 before.2 := by
  intro before after
  have hstart := Session.ahead_serve hs (.runtime symbol)
  have hbefore : before = outcome (x >>= f (s.imports.answer (.runtime symbol)))
      (s.serve (.runtime symbol)) := rfl
  obtain ⟨hresult, hahead⟩ := hx _ _ hstart
  rcases hxs : outcome x s with ⟨result, s'⟩
  rcases hxt : outcome x (s.serve (.runtime symbol)) with ⟨result', t'⟩
  rw [hxs, hxt] at hresult hahead
  cases hresult
  cases result with
  | error fault =>
    rw [hbefore, outcome_bind_of_error hxt, show after = _ from outcome_bind_of_error hxs _]
    exact ⟨rfl, nofun, fun _ _ => hahead⟩
  | ok a =>
    -- The request is answered by the same name before the step and after it.
    have hname : s'.imports.answer (.runtime symbol) = s.imports.answer (.runtime symbol) :=
      (hahead.answers _).1.trans (hstart.answers _).1.symm
    have hafter : after = outcome (f (s.imports.answer (.runtime symbol)) a)
        (s'.serve (.runtime symbol)) := by
      rw [← hname]
      exact Returns.outcome_bind hxs _
    rw [Returns.outcome_bind hxt] at hbefore
    obtain ⟨hsame, hend⟩ := hf (s.imports.answer (.runtime symbol)) a _ _ hahead.catchUp
    rw [hbefore, hafter]
    refine ⟨hsame.symm, fun _ _ => hend, fun fault herror => ?_⟩
    exact absurd ⟨fault, _, Prod.ext herror rfl⟩ (hreturns _ a t')

end Compile

open Compile

/-- Without attributes nothing is said about an element. -/
theorem Compile.finishProps_new (options : Options) :
    finishProps (.new options) = pure ⟨none, [], none, .empty⟩ := rfl

/-- The flag of a fragment without attributes is that of its children. -/
theorem elementFlag_fragment (expr : Node) (name : Option String) (isComponent : Bool)
    (children : Children) :
    elementFlag ⟨expr, name, isComponent, true⟩ children ⟨none, [], none, .empty⟩ =
      .ofFragment children.items.length children.unanalyzable := by
  unfold elementFlag PatchFlag.ofFragment
  cases children.unanalyzable with
  | true => rfl
  | false =>
    by_cases hcount : children.items.length > 1
    · simp only [if_pos hcount, Bool.false_eq_true, if_false]
      rfl
    · simp only [if_neg hcount, Bool.false_eq_true, if_false]
      rfl

/-- A tag that is named like the fragment resolves to the export of the runtime. -/
theorem Compile.resolveTag_fragment (ctx : Context) {name : Ident}
    (h : name.name = Tag.fragment) :
    resolveTag ctx (.path (.ident name)) = do
      let tag ← get .fragment
      return ⟨.ref tag, none,
        !ctx.options.customElements.contains Tag.fragment && !Tag.isSlotless Tag.fragment,
        true⟩ := by
  have hintrinsic : ¬ Tag.isIntrinsic Tag.fragment = true := by decide +kernel
  rw [resolveTag, resolveIdent, h, if_neg hintrinsic]
  exact if_pos rfl

/-- An element with the tag `Fragment` and no attributes requests the fragment, compiles the
children, and constructs a node with a flag for the children alone. -/
theorem Jsx.compile_fragmentTag (ctx : Context) (span : Span) {opening : Opening} {name : Ident}
    (hname : opening.name = .path (.ident name)) (hfragment : name.name = Tag.fragment)
    (children : List Child) (closing : Option Closing) :
    (Jsx.element span opening [] children closing).compile ctx =
      get .fragment >>= fun tag => Child.compileAll ctx children >>= fun items =>
        construct ctx (.ref tag) none (arrayIfAny items.items)
          (.ofFragment items.items.length items.unanalyzable) none span := by
  have hnames (flag : PatchFlag) : PropsAnalysis.empty.emittedNames? flag = none := by
    have hempty : PropsAnalysis.empty.dynamicNames.isEmpty = true := rfl
    rw [PropsAnalysis.emittedNames?, hempty, Bool.not_true, Bool.and_false]
    rfl
  rw [Jsx.compile, hname, resolveTag_fragment ctx hfragment]
  simp only [bind_assoc, pure_bind, Attr.compileAll, finishProps_new, finishElement,
    elementFlag_fragment, hnames, vnodeChildren, if_true, List.isEmpty_nil, bind_pure]

/-- The empty tag requests the fragment after the children. -/
theorem Jsx.compile_fragment (ctx : Context) (span opening closing : Span)
    (children : List Child) :
    (Jsx.fragment span opening closing children).compile ctx =
      Child.compileAll ctx children >>= fun items => get .fragment >>= fun tag =>
        construct ctx (.ref tag) none (arrayIfAny items.items)
          (.ofFragment items.items.length items.unanalyzable) none span := rfl

/-- A fragment compiles to the same node whether it has the tag `Fragment` and no attributes or
the empty tag. In a session that requests have led to, both give the same node or the same fault
and add the same comments. After a node they know the same imports; after a fault in the children,
which comes before the request of the empty tag, they do so but for that request. -/
theorem Jsx.compile_fragmentTag_agrees (ctx : Context) (span : Span) (opening : Opening)
    (name : Ident) (children : List Child) (closing : Option Closing)
    (emptyOpening emptyClosing : Span) (options : Options) (bindings : Bindings) (s : Session)
    (hname : opening.name = .path (.ident name)) (hfragment : name.name = Tag.fragment)
    (hs : (Imports.new options bindings).LeadsTo s.imports) :
    let element := outcome ((Jsx.element span opening [] children closing).compile ctx) s
    let fragment := outcome ((Jsx.fragment span emptyOpening emptyClosing children).compile ctx) s
    element.1 = fragment.1 ∧ element.2.comments = fragment.2.comments ∧
      (∀ node, element.1 = .ok node → element.2.imports.Agrees fragment.2.imports) ∧
      ∀ fault, element.1 = .error fault →
        element.2.imports.Agrees (fragment.2.imports.serve (.runtime .fragment)) := by
  intro element fragment
  have hchildren := Child.steps_compileAll
    (steps_keepsAhead options bindings.names [.runtime .fragment]) ctx children
  obtain ⟨hsame, hok, herror⟩ := outcome_get_comm (f := fun tag items =>
      construct ctx (.ref tag) none (arrayIfAny items.items)
        (.ofFragment items.items.length items.unanalyzable) none span) hchildren
    (fun _ _ => (steps_keepsAhead options bindings.names []).construct _ _ _ _ _ _ _)
    (fun _ _ _ => not_fails_construct) hs
  rw [← Jsx.compile_fragmentTag ctx span hname hfragment children closing,
    ← Jsx.compile_fragment ctx span emptyOpening emptyClosing children] at hsame hok herror
  refine ⟨hsame, ?_, fun node hn => (hok node hn).agrees,
    fun fault hf => (herror fault hf).catchUp.agrees⟩
  cases helement : element.1 with
  | ok node => exact (hok node helement).comments.symm
  | error fault => exact (herror fault helement).comments.symm

/-- The opening tag `<Fragment>`. -/
def Opening.fragment : Opening := ⟨.dummy, false, .path (.ident (.generated Tag.fragment))⟩

/-- A child `<name/>`. -/
def Child.bare (name : TagName) : Child :=
  .jsx (.element .dummy ⟨.dummy, true, name⟩ [] [] none)

/-- Around two elements both ways give the same node and know the same imports. The element has
requested the fragment first, the empty tag last. -/
theorem Jsx.twoElements_compile_fragmentTag_agrees :
    let children := [Child.bare (.path (.ident (.generated "div"))),
      Child.bare (.path (.ident (.generated "p")))]
    let element := outcome ((Jsx.element .dummy .fragment [] children none).compile .sample)
      (.new .sample)
    let fragment := outcome ((Jsx.fragment .dummy .dummy .dummy children).compile .sample)
      (.new .sample)
    (∃ node, element.1 = .ok node ∧ fragment.1 = .ok node) ∧
      element.2.imports.Agrees fragment.2.imports ∧
      element.2.imports.entries.map (·.localName) = ["_Fragment", "_createVNode"] ∧
      fragment.2.imports.entries.map (·.localName) = ["_createVNode", "_Fragment"] := by
  intro children element fragment
  obtain ⟨hsame, _, hagrees, _⟩ := Jsx.compile_fragmentTag_agrees .sample .dummy .fragment
    (.generated Tag.fragment) children none .dummy .dummy .default .none (.new .sample) rfl rfl
    (.refl _)
  have hok : ∃ node, element.1 = .ok node := ⟨_, rfl⟩
  obtain ⟨node, hnode⟩ := hok
  exact ⟨⟨node, hnode, hsame.symm.trans hnode⟩, hagrees node hnode, rfl, rfl⟩

/-- Around a child that has no node both ways fail alike, but only the element has requested the
fragment by then. -/
theorem Jsx.qualifiedChild_fragments_not_agree :
    let children := [Child.bare (.qualified ⟨.dummy, .generated "a", .generated "b"⟩)]
    let element := outcome ((Jsx.element .dummy .fragment [] children none).compile .sample)
      (.new .sample)
    let fragment := outcome ((Jsx.fragment .dummy .dummy .dummy children).compile .sample)
      (.new .sample)
    (∃ fault, element.1 = .error fault ∧ fragment.1 = .error fault) ∧
      ¬ element.2.imports.Agrees fragment.2.imports := by
  intro children element fragment
  refine ⟨⟨_, rfl, rfl⟩, fun hagrees => ?_⟩
  have hfind := hagrees.find? "vue" (.named "Fragment")
  have helement : element.2.imports.find? "vue" (.named "Fragment") = some "_Fragment" := rfl
  have hfragment : fragment.2.imports.find? "vue" (.named "Fragment") = none := rfl
  rw [helement, hfragment] at hfind
  cases hfind

end JsxVNode
