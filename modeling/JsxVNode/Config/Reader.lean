import JsxVNode.Config.Options
import JsxVNode.Config.Scanner

/-!
# Reading options

Reads options from a JSON text: an object with the options by name, or an array
with the options in order. Options that are not given keep their defaults, and an
object may hold other members, which are skipped. The text is read from left to
right, and the first thing wrong with it is the error.
-/

namespace JsxVNode

/-- What is wrong with a configuration. -/
inductive OptionsFault where
  /-- The text is not well formed, an option is given twice, or there are too many. -/
  | malformed
  /-- An option has a value of the wrong type; a text in its place is quoted in the report. -/
  | wrongType (quoted : Option String)
  /-- A custom element pattern cannot be read. -/
  | badPattern (source : String)
  deriving DecidableEq, Repr

namespace OptionsFault

/-- How the report of an unreadable pattern starts. -/
def patternReport : String := "invalid custom element pattern"

/-- Whether a text occurs in another. -/
private def occursIn (part : List Char) : List Char → Bool
  | [] => part.isEmpty
  | c :: rest => part.isPrefixOf (c :: rest) || occursIn part rest

/-- Whether the report of the fault speaks of an unreadable pattern. A quoted text may do so. -/
def reportsPattern : OptionsFault → Bool
  | .malformed => false
  | .wrongType quoted => quoted.any fun text => occursIn patternReport.toList text.toList
  | .badPattern _ => true

end OptionsFault

namespace Options

/-- Reads something at the start of a text and leaves the rest. -/
abbrev Reader (α : Type) : Type := List Char → Except OptionsFault (α × List Char)

/-- The fault of a value that has the wrong type, if it is a value at all. -/
private def wrongType {α : Type} : Reader α := fun cs =>
  match Scanner.skipBlanks cs with
  | '"' :: rest =>
    match Scanner.readString? rest with
    | some (text, _) => .error (.wrongType (some (String.ofList text)))
    | none => .error .malformed
  | _ => .error (.wrongType none)

/-- Reads a value of two words. -/
private def readBool : Reader Bool := fun cs =>
  match Scanner.skipBlanks cs with
  | 't' :: rest =>
    match Scanner.skipWord? "rue" rest with
    | some rest => .ok (true, rest)
    | none => .error .malformed
  | 'f' :: rest =>
    match Scanner.skipWord? "alse" rest with
    | some rest => .ok (false, rest)
    | none => .error .malformed
  | cs => wrongType cs

/-- Reads a text. -/
private def readText : Reader String := fun cs =>
  match Scanner.skipBlanks cs with
  | '"' :: rest =>
    match Scanner.readString? rest with
    | some (text, rest) => .ok (String.ofList text, rest)
    | none => .error .malformed
  | cs => wrongType cs

/-- Reads a text or `null`. -/
private def readOptionalText : Reader (Option String) := fun cs =>
  match Scanner.skipBlanks cs with
  | 'n' :: rest =>
    match Scanner.skipWord? "ull" rest with
    | some rest => .ok (none, rest)
    | none => .error .malformed
  | cs => do
    let (text, rest) ← readText cs
    return (some text, rest)

/-- Reads the texts of an array and its closing bracket. -/
private def readTexts : Nat → Reader (List String)
  | 0, _ => .error .malformed
  | fuel + 1, cs => do
    let (text, rest) ← readText cs
    match Scanner.skipBlanks rest with
    | ',' :: rest =>
      match Scanner.skipBlanks rest with
      | ']' :: _ => .error .malformed
      | _ =>
        let (texts, rest) ← readTexts fuel rest
        return (text :: texts, rest)
    | ']' :: rest => return ([text], rest)
    | _ => .error .malformed

/-- Reads an array of texts. -/
private def readTextArray : Reader (List String) := fun cs =>
  match Scanner.skipBlanks cs with
  | '[' :: rest =>
    match Scanner.skipBlanks rest with
    | ']' :: rest => .ok ([], rest)
    | _ => readTexts (rest.length + 1) rest
  | cs => wrongType cs

/-- Reads the patterns of custom elements. -/
private def readCustomElements : Reader CustomElements := fun cs => do
  let (sources, rest) ← readTextArray cs
  match CustomElements.ofPatterns sources with
  | .ok elements => return (elements, rest)
  | .error source => .error (.badPattern source)

/-- The configurable options, in the order of an array. -/
inductive Key where
  | transformOn
  | mergeProps
  | objectSlots
  | pragma
  | customElements
  | runtimeModule
  | transformOnModule
  deriving DecidableEq, Repr

namespace Key

/-- All options, in the order of an array. -/
def all : List Key :=
  [.transformOn, .mergeProps, .objectSlots, .pragma, .customElements, .runtimeModule,
    .transformOnModule]

/-- The name of an option in an object. -/
def name : Key → String
  | .transformOn => "transformOn"
  | .mergeProps => "mergeProps"
  | .objectSlots => "enableObjectSlots"
  | .pragma => "pragma"
  | .customElements => "customElementPatterns"
  | .runtimeModule => "runtimeModule"
  | .transformOnModule => "transformOnModule"

/-- The option of a given name. -/
def ofName? (name : String) : Option Key := all.find? (·.name == name)

end Key

/-- Reads the value of an option into a record of options. -/
private def readValue (options : Options) : Key → Reader Options
  | .transformOn, cs => do
    let (value, rest) ← readBool cs
    return ({ options with transformOn := value }, rest)
  | .mergeProps, cs => do
    let (value, rest) ← readBool cs
    return ({ options with mergeProps := value }, rest)
  | .objectSlots, cs => do
    let (value, rest) ← readBool cs
    return ({ options with objectSlots := value }, rest)
  | .pragma, cs => do
    let (value, rest) ← readOptionalText cs
    return ({ options with pragma := value }, rest)
  | .customElements, cs => do
    let (value, rest) ← readCustomElements cs
    return ({ options with customElements := value }, rest)
  | .runtimeModule, cs => do
    let (value, rest) ← readText cs
    return ({ options with runtimeModule := value }, rest)
  | .transformOnModule, cs => do
    let (value, rest) ← readText cs
    return ({ options with transformOnModule := value }, rest)

/-- Reads the elements of an array, one for each option still to come. -/
private def readElements (options : Options) (first : Bool) : List Key → Reader Options
  | [], cs =>
    match Scanner.skipBlanks cs with
    | ']' :: rest => .ok (options, rest)
    | _ => .error .malformed
  | key :: keys, cs =>
    match Scanner.skipBlanks cs with
    | ']' :: rest => .ok (options, rest)
    | ',' :: rest =>
      if first then .error .malformed
      else
        match Scanner.skipBlanks rest with
        | ']' :: _ => .error .malformed
        | _ => do
          let (options, rest) ← readValue options key rest
          readElements options false keys rest
    | cs => do
      if first then
        let (options, rest) ← readValue options key cs
        readElements options false keys rest
      else
        .error .malformed

/-- Reads the name of a member and the colon after it. -/
private def readMemberName : Reader String := fun cs =>
  match Scanner.skipBlanks cs with
  | '"' :: rest =>
    match Scanner.readString? rest with
    | some (name, rest) =>
      match Scanner.skipChar? ':' rest with
      | some rest => .ok (String.ofList name, rest)
      | none => .error .malformed
    | none => .error .malformed
  | _ => .error .malformed

/-- Reads the members of an object and its closing brace; `seen` are the options already given. -/
private def readMembers (options : Options) (seen : List Key) : Nat → Reader Options
  | 0, _ => .error .malformed
  | fuel + 1, cs => do
    let (name, rest) ← readMemberName cs
    let (options, seen, rest) ← match Key.ofName? name with
      | some key =>
        if key ∈ seen then .error .malformed
        else
          let (options, rest) ← readValue options key rest
          pure (options, key :: seen, rest)
      | none =>
        match Scanner.skipValue? (rest.length + 1) rest with
        | some rest => pure (options, seen, rest)
        | none => .error .malformed
    match Scanner.skipBlanks rest with
    | ',' :: rest => readMembers options seen fuel rest
    | '}' :: rest => return (options, rest)
    | _ => .error .malformed

/-- Reads options from a configuration text. -/
def ofJson (text : String) : Except OptionsFault Options := do
  let (options, rest) ← match Scanner.skipBlanks text.toList with
    | '[' :: rest => readElements default true Key.all rest
    | '{' :: rest =>
      match Scanner.skipBlanks rest with
      | '}' :: rest => .ok (default, rest)
      | _ => readMembers default [] (rest.length + 1) rest
    | cs => wrongType cs
  if Scanner.skipBlanks rest = [] then return options else .error .malformed

end Options

end JsxVNode
