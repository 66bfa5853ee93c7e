import JsxVNode.Fault
import JsxVNode.Imports.Basic

/-!
# Compilation sessions

What the compilation of a file reads and what it changes. It reads the options and
the declared names; it changes the requested imports and the comments that annotate
patch flags. A fault leaves both as they are at that point.
-/

namespace JsxVNode

/-- A comment in front of the token at a position. -/
structure Comment where
  position : Nat
  text : String
  deriving DecidableEq, Repr

/-- The comments at each position, by position, and in the order they were added. -/
def Comment.byPosition (comments : List Comment) : List (Nat × List String) :=
  let positions := (comments.map (·.position)).eraseDups.mergeSort
  positions.map fun p => (p, (comments.filter (·.position == p)).map (·.text))

/-- What a compilation reads. -/
structure Context where
  options : Options
  bindings : Bindings
  /-- Whether patch flags are annotated. -/
  annotate : Bool

/-- What a compilation changes. -/
structure Session where
  imports : Imports
  comments : List Comment

namespace Session

/-- The start of a compilation. -/
def new (ctx : Context) : Session := ⟨.new ctx.options ctx.bindings, []⟩

end Session

/-- A step of a compilation. -/
abbrev Compile (α : Type) : Type := ExceptT Fault (StateM Session) α

namespace Compile

/-- Makes a request to the imports. -/
def request {α : Type} (f : Imports → α × Imports) : Compile α := do
  let session ← get
  let (result, imports) := f session.imports
  set { session with imports := imports }
  return result

/-- A request changes the imports alone and never fails. -/
@[simp] theorem run_request {α : Type} (f : Imports → α × Imports) (session : Session) :
    (request f).run.run session =
      (.ok (f session.imports).1, { session with imports := (f session.imports).2 }) := rfl

/-- Requests an export of the runtime. -/
def get (symbol : Export) : Compile String := request (·.get symbol)

/-- Adds a comment. -/
def comment (position : Nat) (text : String) : Compile Unit :=
  modify fun session => { session with comments := session.comments ++ [⟨position, text⟩] }

/-- A comment goes to the end of the log and changes nothing else. -/
@[simp] theorem run_comment (position : Nat) (text : String) (session : Session) :
    (comment position text).run.run session =
      (.ok (), { session with comments := session.comments ++ [⟨position, text⟩] }) := rfl

/-- A step that changes nothing but may end in a fault. -/
def ofExcept {α : Type} : Except Fault α → Compile α
  | .ok value => return value
  | .error fault => throw fault

end Compile

end JsxVNode
