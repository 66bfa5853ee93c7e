import JsxVNode.Bindings
import JsxVNode.Config.Options
import JsxVNode.NameSet
import JsxVNode.Tree.Build

/-!
# Runtime imports

The functions of the runtime that the compiled code of a file refers to. The first
request for a function chooses its local name, a name that nothing in the file uses,
and later requests return the same name. At the end the requests become declarations
at the head of the file, one for each source module in order of first request:
imports in a module, destructured `require` calls in a script.
-/

namespace JsxVNode

/-- The functions the runtime module exports. -/
inductive Export where
  | createVNode
  | withDirectives
  | mergeProps
  | resolveComponent
  | resolveDirective
  | fragment
  | isVNode
  | vShow
  | vModelText
  | vModelCheckbox
  | vModelRadio
  | vModelSelect
  | vModelDynamic
  deriving DecidableEq, Repr

/-- The name under which the runtime module exports a function. -/
def Export.name : Export → String
  | .createVNode => "createVNode"
  | .withDirectives => "withDirectives"
  | .mergeProps => "mergeProps"
  | .resolveComponent => "resolveComponent"
  | .resolveDirective => "resolveDirective"
  | .fragment => "Fragment"
  | .isVNode => "isVNode"
  | .vShow => "vShow"
  | .vModelText => "vModelText"
  | .vModelCheckbox => "vModelCheckbox"
  | .vModelRadio => "vModelRadio"
  | .vModelSelect => "vModelSelect"
  | .vModelDynamic => "vModelDynamic"

/-- What is imported from a module. -/
inductive Imported where
  | named (name : String)
  | default
  deriving DecidableEq, Repr

/-- An import that was requested, with the local name chosen for it. -/
structure Import where
  source : String
  imported : Imported
  localName : String
  deriving DecidableEq, Repr

/-- The imports requested so far for one file. -/
structure Imports where
  runtimeModule : String
  transformOnModule : String
  /-- The name called in place of the imported node factory. -/
  pragma : Option String
  /-- The requests, in order. -/
  entries : List Import
  /-- The local name of the function that tells slots from nodes, if it is needed. -/
  slotTest : Option String
  /-- The names that generated names keep clear of. -/
  taken : List String
  deriving DecidableEq, Repr

namespace Imports

/-- No requests yet, in a file that declares the given identifiers. -/
def new (options : Options) (bindings : Bindings) : Imports where
  runtimeModule := options.runtimeModule
  transformOnModule := options.transformOnModule
  pragma := options.pragma
  entries := []
  slotTest := none
  taken := bindings.names

/-- The names tried for a base name, in order: the name itself, then with 2, 3 and so on. -/
def candidate (base : String) : Nat → String
  | 0 => base
  | n + 1 => base ++ toString (n + 2)

/-- The first candidate that is not taken. One more candidate than there are taken names
always suffices. -/
def fresh (taken : List String) (base : String) : String :=
  (((List.range (taken.length + 1)).map (candidate base)).find? (!taken.contains ·)).getD base

/-- The local name of an import, if it was requested. -/
def find? (imports : Imports) (source : String) (imported : Imported) : Option String :=
  (imports.entries.find? fun e => e.source == source && e.imported == imported).map (·.localName)

/-- Requests an import; a new local name is made from the given name after an underscore. -/
def request (imports : Imports) (source : String) (imported : Imported) (name : String) :
    String × Imports :=
  match imports.find? source imported with
  | some found => (found, imports)
  | none =>
    let chosen := fresh imports.taken ("_" ++ name)
    (chosen, { imports with
      entries := imports.entries ++ [⟨source, imported, chosen⟩]
      taken := imports.taken ++ [chosen] })

/-- Requests an export of the runtime module by its name. -/
def getNamed (imports : Imports) (name : String) : String × Imports :=
  imports.request imports.runtimeModule (.named name) name

/-- Requests an export of the runtime module. -/
def get (imports : Imports) (symbol : Export) : String × Imports := imports.getNamed symbol.name

/-- Requests the function that expands a map of handlers. -/
def transformOn (imports : Imports) : String × Imports :=
  imports.request imports.transformOnModule .default "transformOn"

/-- The name of the node factory, which is requested unless the options name one. -/
def factory (imports : Imports) : String × Imports :=
  match imports.pragma with
  | some pragma => (pragma, imports)
  | none => imports.get .createVNode

/-- Requests the function that tells slots from nodes. -/
def isSlot (imports : Imports) : String × Imports :=
  match imports.slotTest with
  | some name => (name, imports)
  | none =>
    let (_, imports) := imports.get .isVNode
    let chosen := fresh imports.taken "_isSlot"
    (chosen, { imports with slotTest := some chosen, taken := imports.taken ++ [chosen] })

/-- Whether nothing was requested. -/
def isEmpty (imports : Imports) : Bool := imports.entries.isEmpty && imports.slotTest.isNone

/-- The source modules in order of first request. -/
def sources (imports : Imports) : List String :=
  (NameSet.ofList (imports.entries.map (·.source))).toList

/-- The requests to one source module, in order. -/
def fromSource (imports : Imports) (source : String) : List Import :=
  imports.entries.filter (·.source == source)

/-- All requests, those to one source module together. -/
def grouped (imports : Imports) : List Import := imports.sources.flatMap imports.fromSource

end Imports

end JsxVNode
