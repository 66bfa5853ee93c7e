import JsxVNode.Proofs.Compile.Exchange
import JsxVNode.Proofs.Imports.Declarations
import JsxVNode.Proofs.Pass.Uniform

/-!
# Markup in braces compiles alike

Markup that stands directly in an element is compiled together with it. If it stands
in braces, the pass replaces it before the element is compiled. Both ways lead to the
same node: what a piece compiles to does not depend on when it is compiled, and an
element does not look at the braces. So putting a piece of markup into braces changes
the order of the requests and the number of replacements, and nothing else.
-/

namespace JsxVNode

namespace Pass

variable {ctx : Context} {α β : Type}

/-- Two visits give the same, and the second replaces one piece of markup more. -/
def Agree (ctx : Context) (x x' : StateM Pass α) : Prop :=
  ∃ a e, Gives ctx x a e ∧ Gives ctx x' a (e + .replacement)

/-- Visits that agree still do when the same visit follows them. -/
theorem Agree.bind {x x' : StateM Pass α} {f : α → StateM Pass β} (h : Agree ctx x x')
    (hf : ∀ a, Settles ctx (f a)) : Agree ctx (x >>= f) (x' >>= f) := by
  obtain ⟨a, e, hx, hx'⟩ := h
  obtain ⟨b, e', hb⟩ := hf a
  refine ⟨b, e + e', hx.bind hb, ?_⟩
  rw [add_right_comm]
  exact hx'.bind hb

theorem Agree.map {x x' : StateM Pass α} (h : Agree ctx x x') (f : α → β) :
    Agree ctx (x >>= fun a => pure (f a)) (x' >>= fun a => pure (f a)) :=
  h.bind fun _ => settles_pure _

/-- Visits that agree still do after the same visit. -/
theorem Settles.bind_agree {y : StateM Pass α} {f f' : α → StateM Pass β} (hy : Settles ctx y)
    (h : ∀ a, Agree ctx (f a) (f' a)) : Agree ctx (y >>= f) (y >>= f') := by
  obtain ⟨a, e, ha⟩ := hy
  obtain ⟨b, e', hb, hb'⟩ := h a
  refine ⟨b, e + e', ha.bind hb, ?_⟩
  rw [add_assoc]
  exact ha.bind hb'

/-- What the other items of a list become when it is visited item by item, and their effect. -/
theorem exists_gives_around {f : α → StateM Pass β} {visitAll : List α → StateM Pass (List β)}
    (hf : ∀ xs, visitAll xs = xs.mapM f) {before after : List α}
    (hb : Settles ctx (visitAll before)) (ha : Settles ctx (visitAll after)) :
    ∃ bs cs rest, ∀ {x : α} {b : β} {e : Effect}, Gives ctx (f x) b e →
      Gives ctx (visitAll (before ++ x :: after)) (bs ++ b :: cs) (e + rest) := by
  simp only [hf] at hb ha ⊢
  obtain ⟨bs, e₁, hbs⟩ := hb
  obtain ⟨cs, e₂, hcs⟩ := ha
  refine ⟨bs, cs, e₁ + e₂, fun {x b e} hx => ?_⟩
  rw [add_left_comm]
  exact hbs.mapM_append (hx.mapM_cons hcs)

/-- A visit gives something, and compiling it gives `b`. -/
def GivesThen (ctx : Context) (x : StateM Pass α) (f : α → Compile β) (b : β) (e : Effect) :
    Prop :=
  ∃ a e₁ e₂, Gives ctx x a e₁ ∧ Compile.Gives ctx (f a) b e₂ ∧ e = e₁ + e₂

end Pass

open Pass

variable {ctx : Context}

/-- The visits of two lists agree that differ in one place. -/
theorem Node.agree_visitAll (before after : List Node) {x y : Node}
    (hs : Sound ctx.options (Node.markupsAll (before ++ x :: after)))
    (h : Sound ctx.options x.markups → Agree ctx (x.visit ctx) (y.visit ctx)) :
    Agree ctx (Node.visitAll ctx (before ++ x :: after))
      (Node.visitAll ctx (before ++ y :: after)) := by
  obtain ⟨hsb, hsx, hsa⟩ := Node.sound_markupsAll_iff.mp hs
  obtain ⟨bs, cs, rest, hrest⟩ := exists_gives_around (Node.visitAll_eq_mapM ctx)
    (Node.settles_visitAll ctx before hsb) (Node.settles_visitAll ctx after hsa)
  obtain ⟨node, e, hx, hy⟩ := h hsx
  refine ⟨bs ++ node :: cs, e + rest, hrest hx, ?_⟩
  rw [add_right_comm]
  exact hrest hy

/-- Two pieces of markup compile to the same node, once they have been visited. -/
def Jsx.Agree (ctx : Context) (markup markup' : Jsx) : Prop :=
  ∃ node e, GivesThen ctx (markup.visit ctx) (Jsx.compile ctx) node e ∧
    GivesThen ctx (markup'.visit ctx) (Jsx.compile ctx) node (e + .replacement)

/-- Two children compile to the same items, once they have been visited, and to the same children
if `Q` holds. -/
def Child.Agree (ctx : Context) (Q : Prop) (child child' : Child) : Prop :=
  ∃ first first' e, GivesThen ctx (child.visit ctx) (Child.compile ctx) first e ∧
    GivesThen ctx (child'.visit ctx) (Child.compile ctx) first' (e + .replacement) ∧
    first.items = first'.items ∧ (Q → first = first')

/-- Two attributes say the same about the type of an input, and they are sorted in alike, once they
have been visited. -/
def Attr.Agree (ctx : Context) (attr attr' : Attr) : Prop :=
  ∃ visited visited' e₁ e₁' e₂ e₂', Gives ctx (attr.visit ctx) visited e₁ ∧
    Gives ctx (attr'.visit ctx) visited' e₁' ∧ e₁' + e₂' = e₁ + e₂ + .replacement ∧
    inputType? [visited] = inputType? [visited'] ∧
    ∀ tag all state, Compile.Exchanges ctx e₂ e₂' (visited.compile ctx tag all state)
      (visited'.compile ctx tag all state)

/-- Two pieces of markup agree if their parts agree: what the visit of a part adds less in one of
them is added more by its compilation. -/
theorem Jsx.agree_of_exchanges {markup markup' visited visited' : Jsx}
    {e₁ e₁' e₂ e₂' rest : Effect} (hs : Sound ctx.options markup.markups)
    (hv : Gives ctx (markup.visit ctx) visited (e₁ + rest))
    (hv' : Gives ctx (markup'.visit ctx) visited' (e₁' + rest))
    (hx : Compile.Exchanges ctx e₂ e₂' (visited.compile ctx) (visited'.compile ctx))
    (he : e₁' + e₂' = e₁ + e₂ + .replacement) : Jsx.Agree ctx markup markup' := by
  obtain ⟨node, effect, hn⟩ := Jsx.exists_gives_compile hs hv
  obtain ⟨rest', hg, hg'⟩ := hx node effect hn
  refine ⟨node, e₁ + rest + (e₂ + rest'), ⟨visited, _, _, hv, hg, rfl⟩,
    visited', _, _, hv', hg', ?_⟩
  calc
    e₁ + rest + (e₂ + rest') + .replacement = e₁ + e₂ + .replacement + (rest + rest') := by abel
    _ = e₁' + e₂' + (rest + rest') := by rw [he]
    _ = e₁' + rest + (e₂' + rest') := by abel

/-- Two elements that differ in one child agree if the children do. -/
theorem Jsx.agree_element_child (span : Span) (opening : Opening) (attrs : List Attr)
    (before after : List Child) (closing : Option Closing) {child child' : Child}
    (hs : Sound ctx.options
      (Jsx.element span opening attrs (before ++ child :: after) closing).markups)
    (h : Sound ctx.options child.markups →
      Child.Agree ctx (opening.name.isFragment = true) child child') :
    Jsx.Agree ctx (.element span opening attrs (before ++ child :: after) closing)
      (.element span opening attrs (before ++ child' :: after) closing) := by
  have hparts := hs
  rw [Jsx.markups, sound_cons_iff, sound_append_iff, Child.sound_markupsAll_iff] at hparts
  obtain ⟨_, hsa, hsb, hsc, hsd⟩ := hparts
  obtain ⟨first, first', e, ⟨visited, e₁, e₂, hv, hc, he⟩, ⟨visited', e₁', e₂', hv', hc', he'⟩,
    hi, hq⟩ := h hsc
  obtain ⟨as, ea, ha⟩ := Attr.settles_visitAll ctx attrs hsa
  obtain ⟨bs, cs, rest, hrest⟩ := exists_gives_around (Child.visitAll_eq_mapM ctx)
    (Child.settles_visitAll ctx before hsb) (Child.settles_visitAll ctx after hsd)
  have helement {child visited : Child} {e : Effect} (hv : Gives ctx (child.visit ctx) visited e) :
      Gives ctx ((Jsx.element span opening attrs (before ++ child :: after) closing).visit ctx)
        (.element span opening as (bs ++ visited :: cs) closing) (e + (ea + rest)) := by
    rw [add_left_comm]
    exact ha.bind ((hrest hv).map _)
  refine Jsx.agree_of_exchanges hs (helement hv) (helement hv')
    (Jsx.exchanges_element_child span opening as bs cs closing hc hc' hi ?_) ?_
  · cases hf : opening.name.isFragment with
    | true => exact Or.inl (hq hf)
    | false => exact Or.inr rfl
  · rw [← he', he]

/-- Two fragments that differ in one child agree if the children do. -/
theorem Jsx.agree_fragment_child (span opening closing : Span) (before after : List Child)
    {child child' : Child}
    (hs : Sound ctx.options
      (Jsx.fragment span opening closing (before ++ child :: after)).markups)
    (h : Sound ctx.options child.markups → Child.Agree ctx True child child') :
    Jsx.Agree ctx (.fragment span opening closing (before ++ child :: after))
      (.fragment span opening closing (before ++ child' :: after)) := by
  have hparts := hs
  rw [Jsx.markups, sound_cons_iff, Child.sound_markupsAll_iff] at hparts
  obtain ⟨_, hsb, hsc, hsd⟩ := hparts
  obtain ⟨first, first', e, ⟨visited, e₁, e₂, hv, hc, he⟩, ⟨visited', e₁', e₂', hv', hc', he'⟩,
    _, hq⟩ := h hsc
  cases hq trivial
  obtain ⟨bs, cs, rest, hrest⟩ := exists_gives_around (Child.visitAll_eq_mapM ctx)
    (Child.settles_visitAll ctx before hsb) (Child.settles_visitAll ctx after hsd)
  refine Jsx.agree_of_exchanges hs ((hrest hv).map _) ((hrest hv').map _)
    (Jsx.exchanges_fragment_child span opening closing bs cs hc hc') ?_
  rw [← he', he]

/-- Two elements that differ in one attribute agree if the attributes do. -/
theorem Jsx.agree_element_attr (span : Span) (opening : Opening) (before after : List Attr)
    (children : List Child) (closing : Option Closing) {attr attr' : Attr}
    (hs : Sound ctx.options
      (Jsx.element span opening (before ++ attr :: after) children closing).markups)
    (h : Sound ctx.options attr.markups → Attr.Agree ctx attr attr') :
    Jsx.Agree ctx (.element span opening (before ++ attr :: after) children closing)
      (.element span opening (before ++ attr' :: after) children closing) := by
  have hparts := hs
  rw [Jsx.markups, sound_cons_iff, sound_append_iff, Attr.sound_markupsAll_iff] at hparts
  obtain ⟨_, ⟨hsb, hsa, hsd⟩, hsc⟩ := hparts
  obtain ⟨visited, visited', e₁, e₁', e₂, e₂', hv, hv', he, ht, hx⟩ := h hsa
  obtain ⟨bs, cs, rest, hrest⟩ := exists_gives_around (Attr.visitAll_eq_mapM ctx)
    (Attr.settles_visitAll ctx before hsb) (Attr.settles_visitAll ctx after hsd)
  obtain ⟨items, ec, hc⟩ := Child.settles_visitAll ctx children hsc
  have helement {attr visited : Attr} {e : Effect} (hv : Gives ctx (attr.visit ctx) visited e) :
      Gives ctx ((Jsx.element span opening (before ++ attr :: after) children closing).visit ctx)
        (.element span opening (bs ++ visited :: cs) items closing) (e + (rest + ec)) := by
    rw [← add_assoc]
    exact (hrest hv).bind (hc.map _)
  exact Jsx.agree_of_exchanges hs (helement hv) (helement hv')
    (Jsx.exchanges_element_attr span opening bs cs items closing hx ht) he

/-- The visit of markup in an expression compiles it, and replaces it. -/
theorem Node.gives_visit_jsx {markup : Jsx} {node : Node} {e : Effect}
    (h : GivesThen ctx (markup.visit ctx) (Jsx.compile ctx) node e) :
    Gives ctx ((Node.jsx markup).visit ctx) node (e + .replacement) := by
  obtain ⟨visited, e₁, e₂, hv, hc, rfl⟩ := h
  rw [add_assoc]
  exact hv.bind (gives_replace hc)

/-- Markup as a child gives the node that the markup gives, and can be analyzed. -/
theorem Child.givesThen_jsx {markup : Jsx} {node : Node} {e : Effect}
    (h : GivesThen ctx (markup.visit ctx) (Jsx.compile ctx) node e) :
    GivesThen ctx ((Child.jsx markup).visit ctx) (Child.compile ctx) ⟨[node], false⟩ e := by
  obtain ⟨visited, e₁, e₂, hv, hc, rfl⟩ := h
  refine ⟨.jsx visited, e₁, e₂, hv.map _, ?_, rfl⟩
  rw [← add_zero e₂]
  exact hc.bind (Compile.gives_pure _)

/-- An expression as a child gives the node that the expression gives, and cannot be analyzed. -/
theorem Child.givesThen_container (braces : Span) {body node : Node} {e : Effect}
    (h : Gives ctx (body.visit ctx) node e) :
    GivesThen ctx ((Child.container braces body).visit ctx) (Child.compile ctx) ⟨[node], true⟩ e :=
  ⟨.container braces node, e, 0, h.map _, Compile.gives_pure _, (add_zero e).symm⟩

theorem Child.givesThen_spread (span : Span) {operand node : Node} {e : Effect}
    (h : Gives ctx (operand.visit ctx) node e) :
    GivesThen ctx ((Child.spread span operand).visit ctx) (Child.compile ctx)
      ⟨[.spread span node], true⟩ e :=
  ⟨.spread span node, e, 0, h.map _, Compile.gives_pure _, (add_zero e).symm⟩

/-- The value of an attribute is compiled like a child. -/
theorem AttrValue.gives_compile_jsx {markup : Jsx} {node : Node} {e : Effect}
    (h : Compile.Gives ctx (markup.compile ctx) node e) :
    Compile.Gives ctx ((AttrValue.jsx markup).compile ctx) (some node) e := by
  rw [← add_zero e]
  exact h.bind (Compile.gives_pure _)

/-- The type of an input says the same for values that are read alike. -/
theorem inputType?_named (span : Span) (name : AttrName) {value value' : AttrValue}
    (h : InputType.ofValue value = InputType.ofValue value') :
    inputType? [.named span name value] = inputType? [.named span name value'] := by
  cases name with
  | plain name => simp only [inputType?, h]
  | qualified name => rfl

/-- An attribute whose visits give the same. -/
theorem Attr.agree_of_agree {attr attr' : Attr}
    (h : Pass.Agree ctx (attr.visit ctx) (attr'.visit ctx)) : Attr.Agree ctx attr attr' := by
  obtain ⟨visited, e, hv, hv'⟩ := h
  refine ⟨visited, visited, e, e + .replacement, 0, 0, hv, hv', ?_, rfl, fun tag all state => ?_⟩
  · rw [add_zero, add_zero]
  · exact Compile.exchanges_refl _

/-- Markup without faults gives something when it is visited and compiled. -/
theorem Jsx.exists_givesThen {markup : Jsx} (hs : Sound ctx.options markup.markups) :
    ∃ node e, GivesThen ctx (markup.visit ctx) (Jsx.compile ctx) node e := by
  obtain ⟨visited, e₁, hv⟩ := Jsx.settles_visit ctx markup hs
  obtain ⟨node, e₂, hc⟩ := Jsx.exists_gives_compile hs hv
  exact ⟨node, e₁ + e₂, visited, e₁, e₂, hv, hc, rfl⟩

/-- A child that is markup gives the same item in braces. -/
theorem Child.agree_wrap (braces : Span) {markup : Jsx} (hs : Sound ctx.options markup.markups) :
    Child.Agree ctx False (.jsx markup) (.container braces (.jsx markup)) := by
  obtain ⟨node, e, h⟩ := Jsx.exists_givesThen hs
  exact ⟨_, _, e, Child.givesThen_jsx h,
    Child.givesThen_container braces (Node.gives_visit_jsx h), rfl, False.elim⟩

/-- Unless it is a model, an attribute whose value is markup is sorted in alike if the value stands
in braces. As the type of an input neither says anything. -/
theorem Attr.agree_wrap (span : Span) {name : AttrName} (hm : name.isModel = false)
    (braces : Span) {markup : Jsx} (hs : Sound ctx.options markup.markups) :
    Attr.Agree ctx (.named span name (.jsx markup))
      (.named span name (.container braces (.jsx markup))) := by
  obtain ⟨node, e, h⟩ := Jsx.exists_givesThen hs
  have hnode := Node.gives_visit_jsx h
  obtain ⟨visited, e₁, e₂, hv, hc, rfl⟩ := h
  have hstring : node.string? = none :=
    hc.of_yields (Q := fun node => node.string? = none)
      (Compile.compile_yields_invoke (fun _ _ => rfl) ctx visited)
  have htype : InputType.ofValue (.jsx visited) = InputType.ofValue (.container braces node) := by
    rw [InputType.ofValue, InputType.ofValue, hstring]
    rfl
  refine ⟨.named span name (.jsx visited), .named span name (.container braces node), e₁, _, e₂, 0,
    (hv.map _).map _, (hnode.map _).map _, add_zero _, inputType?_named span name htype, ?_⟩
  refine Attr.exchanges_named span (AttrValue.gives_compile_jsx hc) (Compile.gives_pure _) ?_
  rw [hm]
  exact fun hmodel => absurd hmodel Bool.false_ne_true

mutual

/-- The visits of a node agree, whether a piece of markup in it stands in braces or not. -/
theorem Node.Rewraps.agree {x y : Node} (h : Node.Rewraps x y)
    (hs : Sound ctx.options x.markups) : Pass.Agree ctx (x.visit ctx) (y.visit ctx) := by
  match h with
  | .paren _ h => exact (h.agree hs).map _
  | .array _ before after h => exact (Node.agree_visitAll before after hs h.agree).map _
  | .object _ before after h => exact (Node.agree_visitAll before after hs h.agree).map _
  | .spread _ h => exact (h.agree hs).map _
  | .key value h =>
    obtain ⟨hk, hv⟩ := sound_append_iff.mp hs
    exact (h.agree hk).bind fun _ => (Node.settles_visit ctx value hv).map _
  | .value key h =>
    obtain ⟨hk, hv⟩ := sound_append_iff.mp hs
    exact (Node.settles_visit ctx key hk).bind_agree fun _ => (h.agree hv).map _
  | .callee _ _ args h =>
    obtain ⟨hc, ha⟩ := sound_append_iff.mp hs
    exact (h.agree hc).bind fun _ => (Node.settles_visitAll ctx args ha).map _
  | .arg _ _ callee before after h =>
    obtain ⟨hc, ha⟩ := sound_append_iff.mp hs
    exact (Node.settles_visit ctx callee hc).bind_agree fun _ =>
      (Node.agree_visitAll before after ha h.agree).map _
  | .jsx h =>
    obtain ⟨node, e, hm, hm'⟩ := h.agree hs
    exact ⟨node, e + .replacement, Node.gives_visit_jsx hm, Node.gives_visit_jsx hm'⟩
  | .group before after h => exact (Node.agree_visitAll before after hs h.agree).map _
  | .form _ before after h => exact (Node.agree_visitAll before after hs h.agree).map _

/-- A piece of markup compiles to the same node, whether a piece in it stands in braces or not. -/
theorem Jsx.Rewraps.agree {markup markup' : Jsx} (h : Jsx.Rewraps markup markup')
    (hs : Sound ctx.options markup.markups) : Jsx.Agree ctx markup markup' := by
  match h with
  | .attr span opening before after children closing h =>
    exact Jsx.agree_element_attr span opening before after children closing hs h.agree
  | .child span opening attrs before after closing h =>
    exact Jsx.agree_element_child span opening attrs before after closing hs (h.agree _)
  | .fragment span opening closing before after h =>
    exact Jsx.agree_fragment_child span opening closing before after hs (h.agree _)
  | .wrap span opening hf attrs before after closing braces _ =>
    refine Jsx.agree_element_child span opening attrs before after closing hs fun hm => ?_
    rw [hf]
    simpa using Child.agree_wrap braces hm

/-- A rewrapped attribute agrees with what it was. -/
theorem Attr.Rewraps.agree {attr attr' : Attr} (h : Attr.Rewraps attr attr')
    (hs : Sound ctx.options attr.markups) : Attr.Agree ctx attr attr' := by
  match h with
  | .spread _ h => exact Attr.agree_of_agree ((h.agree hs).map _)
  | .container _ _ _ h => exact Attr.agree_of_agree (((h.agree hs).map _).map _)
  | .jsx span name h =>
    obtain ⟨node, e, ⟨visited, e₁, e₂, hv, hc, he⟩, ⟨visited', e₁', e₂', hv', hc', he'⟩⟩ :=
      h.agree hs
    refine ⟨.named span name (.jsx visited), .named span name (.jsx visited'), e₁, e₁', e₂, e₂',
      (hv.map _).map _, (hv'.map _).map _, ?_, inputType?_named span name rfl, ?_⟩
    · rw [← he', he]
    · exact Attr.exchanges_named span (AttrValue.gives_compile_jsx hc)
        (AttrValue.gives_compile_jsx hc') fun _ => rfl
  | .wrap span hm braces _ => exact Attr.agree_wrap span hm braces hs

/-- A rewrapped child agrees with what it was. -/
theorem Child.Rewraps.agree {child child' : Child} (h : Child.Rewraps child child')
    (Q : Prop) (hs : Sound ctx.options child.markups) : Child.Agree ctx Q child child' := by
  match h with
  | .container braces h =>
    obtain ⟨node, e, hx, hy⟩ := h.agree hs
    exact ⟨_, _, e, Child.givesThen_container braces hx, Child.givesThen_container braces hy, rfl,
      fun _ => rfl⟩
  | .spread span h =>
    obtain ⟨node, e, hx, hy⟩ := h.agree hs
    exact ⟨_, _, e, Child.givesThen_spread span hx, Child.givesThen_spread span hy, rfl,
      fun _ => rfl⟩
  | .jsx h =>
    obtain ⟨node, e, hm, hm'⟩ := h.agree hs
    exact ⟨_, _, e, Child.givesThen_jsx hm, Child.givesThen_jsx hm', rfl, fun _ => rfl⟩

end

namespace Program

/-- How the compilations of two programs compare if a piece of markup in the second stands in
braces: they have the same items after the declarations, which load the same. -/
structure Compared (options : Options) (annotate : Bool) (program program' : Program)
    (loads loads' tests items : List Node) : Prop where
  output : (program.compile options annotate).program =
    { program with body := loads ++ tests ++ items }
  output' : (program'.compile options annotate).program =
    { program with body := loads' ++ tests ++ items }
  /-- There are as many items as the programs have. -/
  length : items.length = program.body.length
  /-- Each of the declarations that are not common to both loads something. -/
  loading : ∀ load ∈ loads ++ loads', load.loadedImports ≠ []
  /-- The same is loaded under the same names, but maybe in another order. -/
  loaded : (loads.flatMap Node.loadedImports).Perm (loads'.flatMap Node.loadedImports)
  comments : (program.compile options annotate).comments.Perm
    (program'.compile options annotate).comments

section

variable {options : Options} {annotate : Bool} {program program' : Program}

/-- The pass ends without a fault exactly if no markup is faulty. -/
theorem fault_eq_none_iff_sound :
    (program.visited options annotate).2.fault = none ↔
      Sound options (Node.markupsAll program.body) := by
  rw [← Option.not_isSome_iff_eq_none, visited, Node.fault_visitAll_iff]
  constructor
  · intro h markup hm hf
    exact h (Or.inr ⟨markup, hm, hf⟩)
  · rintro hs (hn | ⟨markup, hm, hf⟩)
    · cases hn
    · exact hs markup hm hf

/-- A program compiles exactly if no markup in it is faulty. -/
theorem exists_result_iff_sound :
    (∃ count, (program.compile options annotate).result = .ok count) ↔
      Sound options (Node.markupsAll program.body) := by
  rw [← @fault_eq_none_iff_sound options annotate program]
  constructor
  · rintro ⟨count, h⟩
    exact fault_eq_none_of_result h
  · intro h
    exact ⟨_, by rw [compile_of_fault_eq_none h]⟩

/-- The passes over two programs end with the same items, after the same requests and comments in
some order. -/
theorem Rewraps.exists_visited (annotate : Bool) (h : program.Rewraps program')
    (hs : Sound options (Node.markupsAll program.body)) :
    ∃ items requests requests' comments comments' count,
      program.visited options annotate = (items, ⟨⟨(Imports.new options
        (.ofProgram program)).serveAll requests, comments⟩, count, none⟩) ∧
      program'.visited options annotate = (items, ⟨⟨(Imports.new options
        (.ofProgram program)).serveAll requests', comments'⟩, count + 1, none⟩) ∧
      requests.Perm requests' ∧ comments.Perm comments' := by
  have hctx : program'.context options annotate = program.context options annotate := by
    rw [context, context, h.ofProgram_eq]
  have hagree : Agree (program.context options annotate)
      (Node.visitAll (program.context options annotate) program.body)
      (Node.visitAll (program.context options annotate) program'.body) := by
    obtain ⟨h, hb⟩ := h
    rw [hb] at hs ⊢
    exact Node.agree_visitAll _ _ hs h.agree
  obtain ⟨items, effect, hg, hg'⟩ := hagree
  obtain ⟨requests, comments, count, hv, he⟩ := hg _ (ready_start _)
  obtain ⟨requests', comments', count', hv', he'⟩ := hg' _ (ready_start _)
  rw [he] at he'
  have hrequests : (↑requests : Multiset Imports.Request) = ↑requests' :=
    (add_zero _).symm.trans (congrArg (·.1) he')
  have hcomments : (↑comments : Multiset Comment) = ↑comments' :=
    (add_zero _).symm.trans (congrArg (·.2.1) he')
  have hcount : count + 1 = count' := congrArg (·.2.2) he'
  refine ⟨items, requests, requests', comments, comments', count, ?_, ?_,
    Multiset.coe_eq_coe.mp hrequests, Multiset.coe_eq_coe.mp hcomments⟩
  · rw [visited, hv]
    simp [extend, Session.extend, Session.new, context]
  · rw [visited, hctx, hv', hcount]
    simp [extend, Session.extend, Session.new, context]

/-- A program without faults and the one with a piece of markup in braces compile alike. -/
theorem Rewraps.exists_compared (annotate : Bool) (h : program.Rewraps program')
    (hs : Sound options (Node.markupsAll program.body)) :
    ∃ count, (program.compile options annotate).result = .ok count ∧
      (program'.compile options annotate).result = .ok (count + 1) ∧
      ∃ loads loads' tests items,
        Compared options annotate program program' loads loads' tests items := by
  obtain ⟨items, requests, requests', comments, comments', count, hv, hv', hr, hc⟩ :=
    h.exists_visited annotate hs
  have hitems : (program.visited options annotate).1 = items := congrArg (·.1) hv
  have hlength : items.length = program.body.length := by
    rw [← hitems]
    exact Node.length_visitAll _ program.body _
  have hcompile := compile_of_fault_eq_none (congrArg (·.2.fault) hv)
  have hcompile' := compile_of_fault_eq_none (congrArg (·.2.fault) hv')
  rw [hv] at hcompile
  rw [hv', h.with_body_eq] at hcompile'
  refine ⟨count, by rw [hcompile], by rw [hcompile'], _, _,
    ((Imports.new options (.ofProgram program)).serveAll requests).slotTestDeclarations, items,
    { output := ?_, output' := ?_, length := hlength, loading := ?_,
      loaded := Imports.loadedImports_of_perm options (.ofProgram program) program.kind hr,
      comments := ?_ }⟩
  · rw [hcompile, ← Imports.declarations_eq]
    rfl
  · rw [hcompile', Imports.slotTestDeclarations_of_perm options (.ofProgram program) hr,
      ← Imports.declarations_eq]
    rfl
  · exact List.forall_mem_append.mpr ⟨fun _ => Imports.loadedImports_ne_nil_of_mem_loads,
      fun _ => Imports.loadedImports_ne_nil_of_mem_loads⟩
  · rw [hcompile, hcompile']
    exact hc

end

/-- Whether a piece of markup stands directly in an element or in braces makes no difference for
what a program compiles to, apart from the order of the declarations. In braces it is replaced by
itself, so one replacement more is counted. -/
theorem compile_rewraps (options : Options) (annotate : Bool) (program program' : Program)
    (h : program.Rewraps program') :
    ((∃ count, (program.compile options annotate).result = .ok count) ↔
      ∃ count, (program'.compile options annotate).result = .ok count) ∧
    ∀ count, (program.compile options annotate).result = .ok count →
      (program'.compile options annotate).result = .ok (count + 1) ∧
      ∃ loads loads' tests items,
        Compared options annotate program program' loads loads' tests items := by
  refine ⟨⟨?_, ?_⟩, ?_⟩
  · intro hok
    obtain ⟨count, _, h', _⟩ := h.exists_compared annotate (exists_result_iff_sound.mp hok)
    exact ⟨_, h'⟩
  · intro hok
    exact exists_result_iff_sound.mpr (h.sound (exists_result_iff_sound.mp hok))
  · intro count hok
    have hs := exists_result_iff_sound.mp ⟨count, hok⟩
    obtain ⟨count', hc, hrest⟩ := h.exists_compared annotate hs
    cases hc.symm.trans hok
    exact hrest

/-- The sample with its inner fragment in braces: `<div id={x}>{<p/>}{<></>}</div>`. -/
def sampleInBraces : Program where
  kind := .module
  span := .dummy
  interpreter := none
  body := [.plain .expressionStatement [.jsx (.element .dummy (sample.tag "div")
    [.named .dummy (.plain (.generated "id")) (.container .dummy (.ref "x"))]
    [.container .dummy (.jsx (.element .dummy (sample.tag "p") [] [] none)),
      .container .dummy (.jsx (.fragment .dummy .dummy .dummy []))] none)]]

/-- The paragraph in the sample is put into braces. -/
theorem sample_rewraps : sample.Rewraps sampleInBraces := by
  have hdiv : (sample.tag "div").name.isFragment = false := by decide +kernel
  exact @Rewraps.body sample [] [] _ _ (.form _ [] [] (.jsx (.wrap _ _ hdiv _
    [.container .dummy (.jsx (.element .dummy (sample.tag "p") [] [] none))] [] none .dummy
    (.fragment .dummy .dummy .dummy [])))) rfl

/-- In the sample two pieces of markup are replaced, and three if the fragment stands in braces. -/
theorem sample_compile_rewraps :
    sample.Rewraps sampleInBraces ∧ (sample.compile .default true).result = .ok 2 ∧
      (sampleInBraces.compile .default true).result = .ok 3 ∧
      ∃ loads loads' tests items,
        Compared .default true sample sampleInBraces loads loads' tests items :=
  ⟨sample_rewraps, rfl,
    (compile_rewraps .default true sample sampleInBraces sample_rewraps).2 2 rfl⟩

end Program

end JsxVNode
