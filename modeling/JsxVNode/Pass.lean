import JsxVNode.Compile.Element
import JsxVNode.Imports.Injection

/-!
# The pass over a program

Replaces every piece of markup that stands where an expression may stand, the inner
ones first, and then puts the requested declarations at the head of the file. The
first fault ends the pass: what was replaced before stays replaced, and nothing is
injected.
-/

namespace JsxVNode

/-- The state of the pass. -/
structure Pass where
  session : Session
  /-- The number of replaced pieces of markup. -/
  compiled : Nat
  /-- The fault that ended the pass. -/
  fault : Option Fault

/-- Replaces a piece of markup whose inner expressions have been visited. -/
def Jsx.replace (ctx : Context) (markup : Jsx) : StateM Pass Node := do
  let pass ← get
  if pass.fault.isSome then
    return .jsx markup
  match (markup.compile ctx).run.run pass.session with
  | (.ok node, session) =>
    set { pass with session := session, compiled := pass.compiled + 1 }
    return node
  | (.error fault, session) =>
    set { pass with session := session, fault := some fault }
    return .jsx markup

mutual

/-- Visits a node and replaces the markup in it. -/
def Node.visit (ctx : Context) : Node → StateM Pass Node
  | .hole => return .hole
  | .ident name => return .ident name
  | .lit value => return .lit value
  | .paren span body => return .paren span (← body.visit ctx)
  | .array span elements => return .array span (← Node.visitAll ctx elements)
  | .object span properties => return .object span (← Node.visitAll ctx properties)
  | .spread dots operand => return .spread dots (← operand.visit ctx)
  | .pair key value => do
    let key ← key.visit ctx
    return .pair key (← value.visit ctx)
  | .call span scope callee args => do
    let callee ← callee.visit ctx
    return .call span scope callee (← Node.visitAll ctx args)
  | .jsx markup => do
    let markup ← markup.visit ctx
    markup.replace ctx
  | .group items => return .group (← Node.visitAll ctx items)
  | .form label parts => return .form label (← Node.visitAll ctx parts)

/-- Visits nodes from first to last. -/
def Node.visitAll (ctx : Context) : List Node → StateM Pass (List Node)
  | [] => return []
  | node :: nodes => do
    let node ← node.visit ctx
    return node :: (← Node.visitAll ctx nodes)

/-- Visits the expressions inside a piece of markup. -/
def Jsx.visit (ctx : Context) : Jsx → StateM Pass Jsx
  | .element span opening attrs children closing => do
    let attrs ← Attr.visitAll ctx attrs
    return .element span opening attrs (← Child.visitAll ctx children) closing
  | .fragment span opening closing children =>
    return .fragment span opening closing (← Child.visitAll ctx children)

/-- Visits attributes from first to last. -/
def Attr.visitAll (ctx : Context) : List Attr → StateM Pass (List Attr)
  | [] => return []
  | attr :: attrs => do
    let attr ← attr.visit ctx
    return attr :: (← Attr.visitAll ctx attrs)

/-- Visits an attribute. -/
def Attr.visit (ctx : Context) : Attr → StateM Pass Attr
  | .named span name value => return .named span name (← value.visit ctx)
  | .spread dots operand => return .spread dots (← operand.visit ctx)

/-- Visits the value of an attribute. -/
def AttrValue.visit (ctx : Context) : AttrValue → StateM Pass AttrValue
  | .bare => return .bare
  | .lit value => return .lit value
  | .container span body => return .container span (← body.visit ctx)
  | .empty span inner => return .empty span inner
  | .jsx markup => return .jsx (← markup.visit ctx)

/-- Visits children from first to last. -/
def Child.visitAll (ctx : Context) : List Child → StateM Pass (List Child)
  | [] => return []
  | child :: children => do
    let child ← child.visit ctx
    return child :: (← Child.visitAll ctx children)

/-- Visits a child. -/
def Child.visit (ctx : Context) : Child → StateM Pass Child
  | .text span value raw => return .text span value raw
  | .container span body => return .container span (← body.visit ctx)
  | .empty span inner => return .empty span inner
  | .spread span operand => return .spread span (← operand.visit ctx)
  | .jsx markup => return .jsx (← markup.visit ctx)

end

/-- What the pass over a program leaves behind. -/
structure Outcome where
  /-- The program as far as it was compiled. -/
  program : Program
  /-- The number of replaced pieces of markup, or the fault that ended the pass. -/
  result : Except Fault Nat
  /-- The comments that annotate the patch flags, in the order they were added. -/
  comments : List Comment

namespace Program

/-- Compiles a program, with or without comments that annotate the patch flags. -/
def compile (options : Options) (annotate : Bool) (program : Program) : Outcome :=
  let ctx : Context := ⟨options, .ofProgram program, annotate⟩
  let (body, pass) := (Node.visitAll ctx program.body).run ⟨.new ctx, 0, none⟩
  let program := { program with body := body }
  match pass.fault with
  | some fault => ⟨program, .error fault, pass.session.comments⟩
  | none => ⟨pass.session.imports.inject program, .ok pass.compiled, pass.session.comments⟩

/-- The compiled program, or the fault that ended its compilation. -/
def transform (options : Options) (annotate : Bool) (program : Program) : Except Fault Program :=
  let outcome := program.compile options annotate
  outcome.result.map fun _ => outcome.program

end Program

/-- Compiles a program with the default options, as a host does that configures nothing: the
program as far as it was compiled, and the fault to report, if there is one. -/
def process (program : Program) : Program × Option Fault :=
  let outcome := program.compile .default false
  match outcome.result with
  | .ok _ => (outcome.program, none)
  | .error fault => (outcome.program, some fault)

end JsxVNode
