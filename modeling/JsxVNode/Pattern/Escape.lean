import JsxVNode.Pattern.Flags
import JsxVNode.Pattern.Property
import JsxVNode.Text.HexDigit

/-!
# Escapes

What follows a backslash in the notation of patterns: a character, a set of
characters or a condition on a place. Escapes that mean nothing are refused, and so
are back-references. Every function returns the rest of the text.
-/

namespace JsxVNode.Pattern

open Text (CharRange CharSet)

/-- What an escape, or a plain character, stands for. -/
inductive Atom where
  | char (c : Char)
  | set (s : CharSet)
  | anchor (a : Anchor)
  deriving DecidableEq, Repr

/-- The classes that are named inside brackets, with their characters among the first 128. -/
private def asciiClasses : List (String × String) := [
  ("alnum", "30-39 41-5A 61-7A"), ("alpha", "41-5A 61-7A"), ("ascii", "0-7F"), ("blank", "9 20"),
  ("cntrl", "0-1F 7F"), ("digit", "30-39"), ("graph", "21-7E"), ("lower", "61-7A"),
  ("print", "20-7E"), ("punct", "21-2F 3A-40 5B-60 7B-7E"), ("space", "9-D 20"),
  ("upper", "41-5A"), ("word", "30-39 41-5A 5F 61-7A"), ("xdigit", "30-39 41-46 61-66")]

/-- The class with a name. -/
def asciiClass? (name : String) : Option CharSet :=
  (asciiClasses.lookup name).map fun line => .ranges (Text.readTable [line])

/-- The set that a letter for a class stands for: digits, blanks or word characters. -/
private def letterClass? (f : Flags) (letter : Char) : Option CharSet :=
  match letter, f.unicode with
  | 'd', true => some (.ranges Text.decimalDigits)
  | 's', true => some Text.Property.whiteSpace
  | 'w', true => some (.ranges Text.wordChars)
  | 'd', false => asciiClass? "digit"
  | 's', false => asciiClass? "space"
  | 'w', false => asciiClass? "word"
  | _, _ => none

/-- The character with the code point that hexadecimal digits denote. -/
private def codePoint? (digits : List Char) : Option Char :=
  let code := Text.hexNumber digits
  if digits ≠ [] ∧ code.isValidChar then some (Char.ofNat code) else none

/-- Reads a number of hexadecimal digits, and skips after each of them. -/
private def takeDigits? (f : Flags) : Nat → List Char → Option (List Char × List Char)
  | 0, cs => some ([], cs)
  | _ + 1, [] => none
  | count + 1, c :: rest =>
    if Text.isHexDigit c then
      (takeDigits? f count (f.skip rest)).map fun (digits, rest) => (c :: digits, rest)
    else none

/-- Reads a code point: a fixed number of hexadecimal digits, or any number in braces. Two digits
denote a byte, which without the characters beyond the first 128 has to be one of these. -/
private def readCodePoint? (f : Flags) (count : Nat) (cs : List Char) :
    Option (Atom × List Char) :=
  match f.skip cs with
  | '{' :: rest =>
    match f.takeRun Text.isHexDigit (f.skip rest) with
    | (digits, '}' :: rest) => (codePoint? digits).map fun c => (.char c, f.skip rest)
    | _ => none
  | cs => do
    let (digits, rest) ← takeDigits? f count cs
    let c ← codePoint? digits
    if count = 2 ∧ !f.unicode ∧ 0x80 ≤ c.toNat then none else some (.char c, rest)

/-- Reads the description of a property: one letter, or any text in braces. -/
private def readProperty? (f : Flags) (negated : Bool) (cs : List Char) :
    Option (Atom × List Char) := do
  let (description, rest) ← match f.skip cs with
    | [] => none
    | '{' :: rest =>
      match f.takeRun (· ≠ '}') (f.skip rest) with
      | (description, '}' :: rest) => some (description, rest)
      | _ => none
    | c :: rest => if c = '\\' then none else some ([c], f.skip rest)
  let set ← property? description
  if f.unicode then
    let set ← f.negate? negated (f.fold set)
    some (.set set, rest)
  else none

/-- Reads which edge of a word is meant: a name in braces, or any edge. Braces that cannot hold
a name are left for a repetition. -/
private def readEdge? (f : Flags) (cs : List Char) : Option (WordEdge × List Char) :=
  let inName (c : Char) : Bool := c.isAlpha || c == '-'
  match cs with
  | '{' :: rest =>
    match f.skip rest with
    | [] => none
    | c :: rest =>
      if !inName c then some (.either, cs)
      else
        match f.takeRun inName (c :: rest) with
        | (name, '}' :: rest) =>
          (edge? (String.ofList name)).map (·, rest)
        | _ => none
  | _ => some (.either, cs)
where
  /-- The edge with a name. -/
  edge? : String → Option WordEdge
    | "start" => some .start
    | "end" => some .finish
    | "start-half" => some .startHalf
    | "end-half" => some .finishHalf
    | _ => none

/-- Reads what follows a backslash. -/
def readEscape? (f : Flags) : List Char → Option (Atom × List Char)
  | [] => none
  | c :: rest =>
    match c with
    | 'x' => readCodePoint? f 2 rest
    | 'u' => readCodePoint? f 4 rest
    | 'U' => readCodePoint? f 8 rest
    | 'p' => readProperty? f false rest
    | 'P' => readProperty? f true rest
    | 'b' => (readEdge? f rest).map fun (edge, rest) => (.anchor (.word edge !f.unicode), rest)
    | 'B' => some (.anchor (.word .neither !f.unicode), rest)
    | '<' => some (.anchor (.word .start !f.unicode), rest)
    | '>' => some (.anchor (.word .finish !f.unicode), rest)
    | 'A' => some (.anchor .start, rest)
    | 'z' => some (.anchor .finish, rest)
    | 'a' => some (.char '\x07', rest)
    | 'f' => some (.char '\x0c', rest)
    | 't' => some (.char '\t', rest)
    | 'n' => some (.char '\n', rest)
    | 'r' => some (.char '\r', rest)
    | 'v' => some (.char '\x0b', rest)
    | _ =>
      if ['d', 's', 'w', 'D', 'S', 'W'].contains c then do
        let set ← letterClass? f c.toLower
        let set ← f.negate? c.isUpper set
        some (.set set, rest)
      else if c.toNat < 128 ∧ !c.isAlphanum then some (.char c, rest)
      else none

end JsxVNode.Pattern
