import JsxVNode.Proofs.Compile.Requests
import JsxVNode.Proofs.Tree.Construction

/-!
# The call that constructs a node

Once the parts of a node are there, neither its properties nor its construction can fail. A
construction calls the node factory, writes the flag at the end of the markup if something
can change, and adds one comment there if flags are annotated. Markup that no source text
gave rise to has no end: its flag has no place and no comment.
-/

namespace JsxVNode

/-- The comments that annotate a flag at the end of a range. -/
def Context.annotation (ctx : Context) (flag : PatchFlag) (span : Span) : List Comment :=
  if flag.isEmpty || span.isDummy || !ctx.annotate then []
  else [⟨span.hi, " " ++ flag.description ++ " "⟩]

/-- The place where the flag of markup at a range is written. -/
def Span.flagPlace (span : Span) : Span := if span.isDummy then .dummy else .point span.hi

variable {ctx : Context} {span : Span} {s s' : Session} {node : Node}

namespace Compile

/-- Finishing the properties of an element only makes requests. -/
theorem returns_finishProps_iff {state : PropsState} {props : ElementProps} :
    Returns (finishProps state) s props s' ↔
      props = ⟨(state.builder.finish s.imports).1, state.directives, state.slots,
          state.analysis⟩ ∧
        s' = { s with imports := (state.builder.finish s.imports).2 } := by
  constructor
  · intro h
    obtain ⟨_, _, hfinish, h⟩ := returns_bind_iff.mp h
    obtain ⟨rfl, rfl⟩ := returns_request_iff.mp hfinish
    obtain ⟨rfl, rfl⟩ := returns_pure_iff.mp h
    exact ⟨rfl, rfl⟩
  · rintro ⟨rfl, rfl⟩
    rfl

/-- A flag is written at the end of the markup, with a comment in front of it. -/
theorem outcome_flagLiteral (ctx : Context) {flag : PatchFlag} (hf : flag.isEmpty = false)
    (span : Span) (s : Session) :
    outcome (flagLiteral ctx flag span) s =
      (.ok (.int flag.toInt span.flagPlace),
        { s with comments := s.comments ++ ctx.annotation flag span }) := by
  unfold flagLiteral Context.annotation Span.flagPlace
  rw [hf, Bool.false_or]
  cases span.isDummy with
  | true => simp
  | false =>
    cases ctx.annotate with
    | true => rfl
    | false => simp

/-- A construction requests the factory, adds the comments of its flag, and is the call of the
factory. -/
theorem outcome_construct (ctx : Context) (tag : Node) (props children : Option Node)
    (flag : PatchFlag) (names : Option NameSet) (span : Span) (s : Session) :
    outcome (construct ctx tag props children flag names span) s =
      (.ok (.invoke s.imports.factory.1 (tag :: props.getD .null :: children.getD .null ::
        Node.flagArgs flag span.flagPlace names)),
        ⟨s.imports.factory.2, s.comments ++ ctx.annotation flag span⟩) := by
  unfold construct
  rw [outcome_bind, outcome_request]
  dsimp only
  cases hf : flag.isEmpty with
  | true =>
    rw [if_pos rfl, outcome_pure, Node.flagArgs, Context.annotation, hf, if_pos rfl, Bool.true_or,
      Bool.true_or, if_pos rfl, List.append_nil]
  | false =>
    rw [if_neg Bool.false_ne_true, outcome_bind, outcome_flagLiteral ctx hf, Node.flagArgs, hf,
      if_neg Bool.false_ne_true]
    cases names <;> rfl

end Compile

/-- How runtime directives are applied to a construction: without any the construction stands for
itself, otherwise it is wrapped in a call that takes them in an array. -/
inductive Node.Applies (imports : Imports) (call : Node) : List Node → Node → Prop where
  | none : Applies imports call [] call
  | wrapped {directives : List Node} (hne : directives ≠ []) {ref : String}
      (h : imports.exportName? .withDirectives = some ref) :
      Applies imports call directives (.invoke ref [call, .arrayOf directives])

/-- With directives applied, a construction has its arguments. -/
theorem Node.Applies.constructionArgs {imports : Imports} {factory : String}
    {tag props children : Node} {rest directives : List Node}
    (h : Applies imports (.invoke factory (tag :: props :: children :: rest)) directives node) :
    node.constructionArgs = tag :: props :: children :: rest := by
  cases h with
  | none => exact constructionArgs_invoke _ _ _ _ _
  | wrapped _ _ => exact constructionArgs_wrapped _ _ _ _

namespace Compile

/-- An element is put together from its children argument, the construction and its directives, and
the comments of its flag are added. -/
theorem exists_of_finishElement {tag : ResolvedTag} {children : Children} {props : ElementProps}
    (h : Returns (finishElement ctx span tag children props) s node s') :
    ∃ argument t factory, Returns (vnodeChildren ctx tag children.items props.slots) s argument t ∧
      t.imports.LeadsTo s'.imports ∧
      s'.comments = t.comments ++ ctx.annotation (elementFlag tag children props) span ∧
      s'.imports.factoryName? = some factory ∧
      Node.Applies s'.imports
        (.invoke factory (tag.expr :: props.props.getD .null :: argument.getD .null ::
          Node.flagArgs (elementFlag tag children props) span.flagPlace
            (props.analysis.emittedNames? (elementFlag tag children props))))
        props.directives node := by
  obtain ⟨argument, t, hargument, h⟩ := returns_bind_iff.mp h
  refine ⟨argument, t, t.imports.factory.1, hargument, ?_⟩
  have hfactory := t.imports.leadsTo_factory
  have hname := t.imports.factoryName?_factory
  rw [Returns, outcome_bind, outcome_construct] at h
  dsimp only at h
  cases hd : props.directives with
  | nil =>
    rw [hd, List.isEmpty_nil, if_pos rfl] at h
    obtain ⟨rfl, rfl⟩ := returns_pure_iff.mp h
    exact ⟨hfactory, rfl, hname, .none⟩
  | cons directive rest =>
    rw [hd, List.isEmpty_cons, if_neg Bool.false_ne_true] at h
    obtain ⟨ref, t', hget, h⟩ := returns_bind_iff.mp h
    obtain ⟨rfl, rfl⟩ := returns_request_iff.mp hget
    obtain ⟨rfl, rfl⟩ := returns_pure_iff.mp h
    have hwrap := t.imports.factory.2.leadsTo_get .withDirectives
    exact ⟨hfactory.trans hwrap, rfl, hwrap.factoryName? hname,
      .wrapped (List.cons_ne_nil _ _) (Imports.exportName?_get _ _)⟩

end Compile

end JsxVNode
