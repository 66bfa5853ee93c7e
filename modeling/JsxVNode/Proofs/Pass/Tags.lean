import JsxVNode.Proofs.Bindings
import JsxVNode.Proofs.Compile.Coverage
import JsxVNode.Proofs.Pass.Frame
import JsxVNode.Proofs.Pass.Rewrap

/-!
# What a tag refers to

The first argument of a construction is what the tag of the element refers to. A tag
that is a single identifier refers to an element of the platform, to the fragment, to
the identifier itself if the program binds it somewhere, to a custom element, or to a
component that the runtime looks up. Only declarations bind: an identifier that is
merely used, and one of the same name in another scope, make no difference.
-/

namespace JsxVNode

open Pass

namespace Program

/-- The declarations that bind an identifier for tags. -/
def bindingWays : List Declaration :=
  [.importLocal, .declarator, .functionDeclaration, .classDeclaration, .parameter,
    .arrowParameter, .caught]

/-- A program binds an identifier: a declaration of it stands somewhere in the program, at any depth
and inside markup as well. -/
def Binds (program : Program) (id : Id) : Prop :=
  ∃ node ∈ Node.nodesAll program.body, ∃ way ∈ bindingWays, node.Declares way id

/-- The ways of binding that are listed are those that the declared names are collected from. -/
theorem mem_bindingWays_iff (way : Declaration) : way ∈ bindingWays ↔ way.isCollected = true := by
  cases way <;> decide

/-- The collected identifiers are the bound ones. -/
theorem contains_ofProgram_iff_binds (program : Program) (id : Id) :
    (Bindings.ofProgram program).contains id = true ↔ program.Binds id := by
  rw [Bindings.contains_ofProgram_iff]
  simp only [Binds, mem_bindingWays_iff]

/-- The name under which a program refers to an export of the runtime. -/
def runtimeLocal (program : Program) (symbol : Export) : String :=
  Imports.Request.localName (Bindings.ofProgram program).names (.runtime symbol)

/-- An export of the runtime is imported under that name if it is imported at all. -/
theorem localName_of_mem_requestedImports (options : Options) (annotate : Bool)
    (program : Program) {entry : Import} {symbol : Export}
    (hm : entry ∈ (program.requestedImports options annotate).entries)
    (hs : entry.imported = .named symbol.name) :
    entry.localName = program.runtimeLocal symbol := by
  obtain ⟨requests, hr⟩ := Node.kept_visitAll
    (Pass.kept_importsRequested (program.context options annotate)) program.body
    ⟨.new (program.context options annotate), 0, none⟩
  have hserved := Imports.servedBy_serveAll options (.ofProgram program) requests
  rw [requestedImports, visited, hr] at hm
  obtain ⟨request, _, rfl⟩ := (hserved.entries entry).mp hm
  have himported : request.imported = Imports.Request.imported (.runtime symbol) := hs
  rw [Imports.Request.entry, Imports.Request.needed_eq_of_imported_eq himported]
  rfl

end Program

/-- What an identifier as a tag stands for in a program. -/
inductive Ident.TagDenotes (options : Options) (program : Program) (ident : Ident) :
    Node → Prop where
  | intrinsic (h : Tag.isIntrinsic ident.name = true) :
      TagDenotes options program ident (.str ident.name)
  | fragment (hi : Tag.isIntrinsic ident.name = false) (h : ident.name = Tag.fragment) :
      TagDenotes options program ident (.ref (program.runtimeLocal .fragment))
  | bound (hi : Tag.isIntrinsic ident.name = false) (hf : ident.name ≠ Tag.fragment)
      (h : program.Binds ident.id) : TagDenotes options program ident (.ident ident)
  | custom (hi : Tag.isIntrinsic ident.name = false) (hf : ident.name ≠ Tag.fragment)
      (hb : ¬ program.Binds ident.id) (h : options.customElements.contains ident.name = true) :
      TagDenotes options program ident (.str ident.name)
  | lookedUp (hi : Tag.isIntrinsic ident.name = false) (hf : ident.name ≠ Tag.fragment)
      (hb : ¬ program.Binds ident.id) (h : options.customElements.contains ident.name = false) :
      TagDenotes options program ident
        (.invoke (program.runtimeLocal .resolveComponent) [.str ident.name])

namespace Compile

/-- An identifier is resolved to what it stands for. -/
theorem exists_gives_resolveIdent (options : Options) (annotate : Bool) (program : Program)
    (ident : Ident) :
    ∃ tag e, Gives (program.context options annotate)
        (resolveIdent (program.context options annotate) ident) tag e ∧
      ident.TagDenotes options program tag.expr := by
  have hbinds := program.contains_ofProgram_iff_binds ident.id
  unfold resolveIdent
  dsimp only
  cases hi : Tag.isIntrinsic ident.name with
  | true => exact ⟨_, _, gives_pure _, .intrinsic hi⟩
  | false =>
    rw [if_neg Bool.false_ne_true]
    by_cases hf : ident.name = Tag.fragment
    · rw [if_pos hf]
      exact ⟨_, _, (gives_request (.runtime .fragment) fun _ _ => rfl).bind (gives_pure _),
        .fragment hi hf⟩
    · rw [if_neg hf]
      cases hb : (program.context options annotate).bindings.contains ident.id with
      | true => exact ⟨_, _, gives_pure _, .bound hi hf (hbinds.mp hb)⟩
      | false =>
        have hfree : ¬ program.Binds ident.id := by
          intro hn
          rw [← hbinds] at hn
          cases hb.symm.trans hn
        cases hx : (program.context options annotate).options.customElements.contains
            ident.name with
        | true => exact ⟨_, _, gives_pure _, .custom hi hf hfree hx⟩
        | false =>
          exact ⟨_, _, (gives_request (.runtime .resolveComponent) fun _ _ => rfl).bind
            (gives_pure _), .lookedUp hi hf hfree hx⟩

end Compile

/-- The pass makes a call of a piece of markup: from every state in which it can go on, the piece
compiles to that call once it has been visited. -/
def Jsx.Constructs (ctx : Context) (markup : Jsx) (call : Node) : Prop :=
  ∃ e, GivesThen ctx (markup.visit ctx) (Jsx.compile ctx) call e

/-- The first argument of the call for an element is what its tag stands for. -/
theorem Jsx.Constructs.tagDenotes {options : Options} {annotate : Bool} {program : Program}
    {span : Span} {opening : Opening} {attrs : List Attr} {children : List Child}
    {closing : Option Closing} {ident : Ident} {call : Node}
    (h : (Jsx.element span opening attrs children closing).Constructs
      (program.context options annotate) call)
    (hname : opening.name = .path (.ident ident)) :
    ∃ tag, call.constructionArg? 0 = some tag ∧ ident.TagDenotes options program tag := by
  obtain ⟨_, visited, _, _, hv, hc, _⟩ := h
  have hu := Compile.steps_uniform (program.context options annotate)
  -- The visit leaves the opening tag as it is.
  have hopening : ∃ attrs' children', visited = .element span opening attrs' children' closing := by
    obtain ⟨_, _, _, hx, _⟩ := hv _ (ready_start _)
    have hvisited := congrArg Prod.fst hx
    exact ⟨_, _, hvisited.symm⟩
  obtain ⟨attrs', children', rfl⟩ := hopening
  rw [Jsx.compile, hname] at hc
  obtain ⟨tag, _, _, ht, hrest⟩ := hc.exists_of_bind (hu.resolveTag _ _) fun tag =>
    hu.bind (Child.steps_compileAll hu _ children') fun items =>
      hu.bind (Attr.steps_compileAll hu _ tag attrs' attrs' _) fun state =>
        hu.bind (hu.finishProps state) fun props => hu.finishElement _ span tag items props
  have harg : call.constructionArg? 0 = some tag.expr := by
    refine hrest.of_yields (Q := fun call => call.constructionArg? 0 = some tag.expr) ?_
    refine Compile.yields_bind_of_forall fun items => ?_
    refine Compile.yields_bind_of_forall fun state => ?_
    refine Compile.yields_bind_of_forall fun props => ?_
    intro s node s' hr
    obtain ⟨_, _, hargs⟩ := Compile.args_finishElement _ span tag items props s node s' hr
    rw [Node.constructionArg?, hargs]
    rfl
  obtain ⟨resolved, _, hg, hd⟩ :=
    Compile.exists_gives_resolveIdent options annotate program ident
  rw [ht.unique hg] at harg
  exact ⟨resolved.expr, harg, hd⟩

namespace Pass

/-- Markup is replaced by the call that the pass makes of it. -/
theorem fills_constructs (ctx : Context) :
    Fills ctx (fun pass => pass.session.Served ctx) (Jsx.Constructs ctx) where
  kept := by
    refine ⟨fun _ => id, fun h h' hp => h' (h hp), ?_⟩
    rintro markup pass ⟨requests, hr⟩
    obtain ⟨more, hm⟩ := (kept_importsRequested ctx).replace markup pass
    exact ⟨requests ++ more, by rw [hm, hr, Imports.serveAll_append]⟩
  replaced {markup pass} hp h := by
    have hfault := Node.fault_visit_iff ctx (.jsx markup) pass
    simp only [h, Option.isSome_none, Bool.false_eq_true, false_iff, not_or] at hfault
    have hready : pass.Ready ctx := ⟨hp, Option.not_isSome_iff_eq_none.mp hfault.1⟩
    have hsound : Sound ctx.options markup.markups := fun inner hm hf =>
      hfault.2 ⟨inner, hm, hf⟩
    obtain ⟨call, e, hc⟩ := Jsx.exists_givesThen hsound
    obtain ⟨_, _, _, hx, _⟩ := Node.gives_visit_jsx hc pass hready
    rw [hx]
    exact ⟨e, hc⟩

end Pass

namespace Program

/-- The calls that the pass makes of the outermost markup stand in its place, behind the
declarations. -/
theorem exists_calls_placed {options : Options} {annotate : Bool} {program : Program}
    (hfault : (program.visited options annotate).2.fault = none) :
    ∃ calls, List.Forall₂ (Jsx.Constructs (program.context options annotate))
        (Node.outermostAll program.body) calls ∧
      (program.compile options annotate).program.body =
        (program.requestedImports options annotate).declarations program.kind ++
          (Node.fillAll program.body calls).1 := by
  obtain ⟨calls, hfill⟩ := Node.allFilledBy_visitAll
    (Pass.fills_constructs (program.context options annotate)) program.body
    (Session.served_new _) hfault
  have hitems := hfill.fill []
  rw [List.append_nil] at hitems
  refine ⟨calls, hfill.compiled, ?_⟩
  rw [compile_of_fault_eq_none hfault, hitems]
  rfl

/-- How the tags of a program are resolved when it is compiled. -/
structure TagsResolved (options : Options) (annotate : Bool) (program : Program) : Prop where
  /-- The calls for the outermost markup stand in its place, behind the declarations. -/
  placed : ∃ calls, List.Forall₂ (Jsx.Constructs (program.context options annotate))
      (Node.outermostAll program.body) calls ∧
    (program.compile options annotate).program.body =
      (program.requestedImports options annotate).declarations program.kind ++
        (Node.fillAll program.body calls).1
  /-- What is declared of the runtime is declared under the names by which tags refer to it. -/
  declared : ∀ entry ∈ (program.requestedImports options annotate).entries,
    ∀ symbol : Export, entry.imported = .named symbol.name →
      entry.localName = program.runtimeLocal symbol
  /-- The call for an element, wherever it stands, begins with what its tag stands for. -/
  tags : ∀ span opening attrs children closing ident,
    Jsx.element span opening attrs children closing ∈ Node.markupsAll program.body →
    opening.name = .path (.ident ident) →
    ∃ call tag, (Jsx.element span opening attrs children closing).Constructs
        (program.context options annotate) call ∧
      call.constructionArg? 0 = some tag ∧ ident.TagDenotes options program tag

/-- The tags of a program that compiles are resolved by the identifiers that the program binds,
those and no others. -/
theorem compile_tagsResolved (options : Options) (annotate : Bool) (program : Program) (count : Nat)
    (h : (program.compile options annotate).result = .ok count) :
    program.TagsResolved options annotate := by
  have hfault := fault_eq_none_of_result h
  have hsound := fault_eq_none_iff_sound.mp hfault
  refine ⟨exists_calls_placed hfault, fun entry hm symbol hs => ?_, ?_⟩
  · exact localName_of_mem_requestedImports options annotate program hm hs
  · intro span opening attrs children closing ident hm hname
    have hinner : Sound (program.context options annotate).options
        (Jsx.element span opening attrs children closing).markups :=
      fun piece hp => hsound piece (Node.markupsAll_subset_of_mem program.body hm hp)
    obtain ⟨call, e, hc⟩ := Jsx.exists_givesThen hinner
    have hconstructs : (Jsx.element span opening attrs children closing).Constructs
        (program.context options annotate) call := ⟨e, hc⟩
    obtain ⟨tag, harg, hd⟩ := hconstructs.tagDenotes hname
    exact ⟨call, tag, hconstructs, harg, hd⟩

/-- The module `const { [Box]: a = Box, Box: b } = Box; Box = Box; (Box) => null; <Box/>`, in which
the parameter is of a scope of its own. -/
def unboundBox : Program where
  kind := .module
  span := .dummy
  interpreter := none
  body := [
    .constants [.declarator (.plain .objectPattern [.group [
      .plain .keyValuePatternProperty [.computedKey (.ident (box 1)),
        .plain .assignmentPattern [.ref "a", .ident (box 1)]],
      .plain .keyValuePatternProperty [.ident (box 1), .ref "b"]]]) (.ident (box 1))],
    .plain .expressionStatement [.assign (.ident (box 1)) (.ident (box 1))],
    .plain .expressionStatement [.arrow [.ident (box 2)] .null],
    .plain .expressionStatement [.jsx element]]
where
  /-- The identifier `Box` of a scope. -/
  box (scope : Nat) : Ident := ⟨.dummy, "Box", scope, false⟩
  /-- The element `<Box/>`. -/
  element : Jsx := .element .dummy ⟨.dummy, true, .path (.ident (box 1))⟩ [] [] none

/-- Keys, default values, assignments and the parameter of another scope do not bind `Box`, so the
runtime looks it up. -/
theorem unboundBox_tagsResolved :
    (unboundBox.compile .default false).result = .ok 1 ∧ ¬ unboundBox.Binds ⟨"Box", 1⟩ ∧
      unboundBox.Binds ⟨"Box", 2⟩ ∧
      ∃ call, unboundBox.element.Constructs (unboundBox.context .default false) call ∧
        call.constructionArg? 0 = some (.invoke "_resolveComponent" [.str "Box"]) := by
  have hok : (unboundBox.compile .default false).result = .ok 1 := rfl
  have hfree : ¬ unboundBox.Binds ⟨"Box", 1⟩ := by
    rw [← contains_ofProgram_iff_binds]
    decide
  have hparam : unboundBox.Binds ⟨"Box", 2⟩ := by
    rw [← contains_ofProgram_iff_binds]
    decide
  obtain ⟨call, tag, hc, harg, hd⟩ := (compile_tagsResolved .default false unboundBox 1 hok).tags
    .dummy ⟨.dummy, true, .path (.ident (unboundBox.box 1))⟩ [] [] none (unboundBox.box 1)
    List.mem_cons_self rfl
  have htag : tag = .invoke "_resolveComponent" [.str "Box"] := by
    cases hd with
    | intrinsic h => exact absurd h (by decide)
    | fragment _ h => exact absurd h (by decide)
    | bound _ _ h => exact absurd h hfree
    | custom _ _ _ h => exact absurd h (by decide)
    | lookedUp => rfl
  exact ⟨hok, hfree, hparam, call, hc, htag ▸ harg⟩

end Program

end JsxVNode
