import JsxVNode.Imports.Basic

/-!
# Injected declarations

The declarations that bind the requested imports of a file, and the function that
tells a slots object from a node. They stand before everything else in the file.
-/

namespace JsxVNode

/-- The specifier that imports a name into a module. -/
def Import.specifier (entry : Import) : Node :=
  match entry.imported with
  | .named name => .plain .importSpecifier [.ref entry.localName, .ref name]
  | .default => .plain .importDefaultSpecifier [.ref entry.localName]

/-- The import declaration for the requests to one module. -/
def importDeclaration (source : String) (entries : List Import) : Node :=
  .form (.generated .importDeclaration [("phase", .text "evaluation")])
    [.group (entries.map (·.specifier)), .str source]

/-- The call that loads a module in a script. -/
def requireCall (source : String) : Node := .invoke "require" [.str source]

/-- The properties of a pattern that picks the named imports out of a loaded module. -/
def requireProperties (entries : List Import) : List Node :=
  entries.filterMap fun entry =>
    match entry.imported with
    | .named name => some (.plain .keyValuePatternProperty [.ref name, .ref entry.localName])
    | .default => none

/-- The declarators that bind the default exports of a loaded module. -/
def requireDefaults (source : String) (entries : List Import) : List Node :=
  entries.filterMap fun entry =>
    match entry.imported with
    | .named _ => none
    | .default =>
      some (.declarator (.ref entry.localName) (.member (requireCall source) "default"))

/-- The declaration that loads a module in a script and binds what was requested of it. -/
def requireDeclaration (source : String) (entries : List Import) : Node :=
  let defaults := requireDefaults source entries
  let properties := requireProperties entries
  if properties.isEmpty then .constants defaults
  else
    .constants (.declarator (.plain .objectPattern [.group properties]) (requireCall source) ::
      defaults)

/-- The function that tells a slots object from a node: a function is one, and so is a plain
object that the runtime does not take for a node. -/
def slotTestDeclaration (name isVNode : String) : Node :=
  let s := Node.ref "s"
  let isFunction := Node.binary "===" (.unary "typeof" s) (.str "function")
  let tag := Node.callOf (["prototype", "toString", "call"].foldl .member (.ref "Object")) [s]
  let isPlainObject := Node.binary "===" tag (.str "[object Object]")
  let isNoNode := Node.unary "!" (.invoke isVNode [s])
  .functionReturning name ["s"]
    (.binary "||" isFunction (.paren .dummy (.binary "&&" isPlainObject isNoNode)))

namespace Imports

/-- The declaration of the slot test, if it was requested. -/
def slotTestDeclarations (imports : Imports) : List Node :=
  match imports.slotTest, imports.find? imports.runtimeModule (.named Export.isVNode.name) with
  | some name, some isVNode => [slotTestDeclaration name isVNode]
  | _, _ => []

/-- The declarations at the head of a file. -/
def declarations (imports : Imports) (kind : ProgramKind) : List Node :=
  imports.sources.map (fun source =>
    let entries := imports.fromSource source
    match kind with
    | .module => importDeclaration source entries
    | .script => requireDeclaration source entries) ++ imports.slotTestDeclarations

/-- A program with the requested declarations at its head. -/
def inject (imports : Imports) (program : Program) : Program :=
  { program with body := imports.declarations program.kind ++ program.body }

end Imports

end JsxVNode
