import JsxVNode.Text.HexDigit

/-!
# Scanning configuration text

The lexical rules of JSON, read strictly: no comments, no trailing commas, no
unescaped control characters. A string whose value is wanted must denote a text, so
a surrogate escape has to come in a pair; a string that is skipped need only be
well formed. Every function returns the rest of the text, or nothing if the text
does not follow the rules.
-/

namespace JsxVNode.Scanner

open Text (hexValue?)

/-- Text that follows blanks. -/
def skipBlanks (cs : List Char) : List Char :=
  cs.dropWhile fun c => c == ' ' || c == '\t' || c == '\n' || c == '\r'

/-- The value of four hexadecimal digits. -/
def hex4? (a b c d : Char) : Option Nat := do
  some (4096 * (← hexValue? a) + 256 * (← hexValue? b) + 16 * (← hexValue? c) + (← hexValue? d))

/-- The character that a letter after a backslash denotes. -/
def escaped? (c : Char) : Option Char :=
  if c = '"' ∨ c = '\\' ∨ c = '/' then some c
  else if c = 'b' then some '\x08'
  else if c = 'f' then some '\x0c'
  else if c = 'n' then some '\n'
  else if c = 'r' then some '\r'
  else if c = 't' then some '\t'
  else none

/-- Whether a unit is the first of a surrogate pair. -/
def isHighSurrogate (unit : Nat) : Bool := 0xD800 ≤ unit && unit ≤ 0xDBFF

/-- Whether a unit is the second of a surrogate pair. -/
def isLowSurrogate (unit : Nat) : Bool := 0xDC00 ≤ unit && unit ≤ 0xDFFF

/-- The character that a surrogate pair denotes. -/
def ofSurrogates (high low : Nat) : Char :=
  Char.ofNat (0x10000 + (high - 0xD800) * 0x400 + (low - 0xDC00))

/-- Puts a character in front of what was read. -/
private def prepend (c : Char) (read : Option (List Char × List Char)) :
    Option (List Char × List Char) :=
  read.map fun (value, rest) => (c :: value, rest)

/-- Reads a string up to its closing quote. -/
def readString? : List Char → Option (List Char × List Char)
  | [] => none
  | '"' :: rest => some ([], rest)
  | '\\' :: 'u' :: a :: b :: c :: d :: rest =>
    match hex4? a b c d with
    | none => none
    | some unit =>
      if isLowSurrogate unit then none
      else if isHighSurrogate unit then
        match rest with
        | '\\' :: 'u' :: e :: f :: g :: h :: more =>
          match hex4? e f g h with
          | none => none
          | some low =>
            if isLowSurrogate low then prepend (ofSurrogates unit low) (readString? more)
            else none
        | _ => none
      else prepend (Char.ofNat unit) (readString? rest)
  | '\\' :: c :: rest =>
    match escaped? c with
    | none => none
    | some value => prepend value (readString? rest)
  | c :: rest => if c.toNat < 0x20 then none else prepend c (readString? rest)

/-- Skips a string up to its closing quote. -/
def skipString? : List Char → Option (List Char)
  | [] => none
  | '"' :: rest => some rest
  | '\\' :: 'u' :: a :: b :: c :: d :: rest =>
    if (hex4? a b c d).isSome then skipString? rest else none
  | '\\' :: c :: rest => if (escaped? c).isSome then skipString? rest else none
  | c :: rest => if c.toNat < 0x20 then none else skipString? rest

/-- Skips one or more digits. -/
def skipDigits? (cs : List Char) : Option (List Char) :=
  match cs with
  | c :: rest => if c.isDigit then some (rest.dropWhile Char.isDigit) else none
  | [] => none

/-- Skips a number without its sign; a zero is not followed by more digits. -/
def skipUnsigned? (cs : List Char) : Option (List Char) := do
  let rest ← match cs with
    | '0' :: rest => if rest.head?.any Char.isDigit then none else some rest
    | _ => skipDigits? cs
  let rest ← match rest with
    | '.' :: rest => skipDigits? rest
    | _ => some rest
  match rest with
  | c :: rest =>
    if c = 'e' ∨ c = 'E' then
      match rest with
      | sign :: digits => if sign = '+' ∨ sign = '-' then skipDigits? digits else skipDigits? rest
      | [] => none
    else some (c :: rest)
  | [] => some []

/-- Skips a number. -/
def skipNumber? : List Char → Option (List Char)
  | '-' :: rest => skipUnsigned? rest
  | cs => skipUnsigned? cs

/-- Text that follows a given word. -/
def skipWord? (word : String) (cs : List Char) : Option (List Char) :=
  if word.toList.isPrefixOf cs then some (cs.drop word.length) else none

/-- Text that follows blanks and a given character. -/
def skipChar? (c : Char) (cs : List Char) : Option (List Char) :=
  match skipBlanks cs with
  | d :: rest => if c = d then some rest else none
  | [] => none

mutual

/-- Skips a value of any kind. -/
def skipValue? : Nat → List Char → Option (List Char)
  | 0, _ => none
  | fuel + 1, cs =>
    match skipBlanks cs with
    | '"' :: rest => skipString? rest
    | '[' :: rest =>
      match skipBlanks rest with
      | ']' :: rest => some rest
      | _ => skipElements? fuel rest
    | '{' :: rest =>
      match skipBlanks rest with
      | '}' :: rest => some rest
      | _ => skipMembers? fuel rest
    | 't' :: rest => skipWord? "rue" rest
    | 'f' :: rest => skipWord? "alse" rest
    | 'n' :: rest => skipWord? "ull" rest
    | rest => skipNumber? rest

/-- Skips the elements of an array and its closing bracket. -/
def skipElements? : Nat → List Char → Option (List Char)
  | 0, _ => none
  | fuel + 1, cs => do
    let rest ← skipValue? fuel cs
    match skipBlanks rest with
    | ',' :: rest => skipElements? fuel rest
    | ']' :: rest => some rest
    | _ => none

/-- Skips the members of an object and its closing brace. -/
def skipMembers? : Nat → List Char → Option (List Char)
  | 0, _ => none
  | fuel + 1, cs => do
    let rest ← skipChar? '"' cs
    let rest ← skipString? rest
    let rest ← skipChar? ':' rest
    let rest ← skipValue? fuel rest
    match skipBlanks rest with
    | ',' :: rest => skipMembers? fuel rest
    | '}' :: rest => some rest
    | _ => none

end

end JsxVNode.Scanner
