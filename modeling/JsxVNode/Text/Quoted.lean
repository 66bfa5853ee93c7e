import JsxVNode.Text.Addition
import JsxVNode.Text.Property

/-!
# Quoted text

A text between double quotes. A backslash stands before quotes and backslashes.
Characters that would not be seen as themselves are written as escapes: control
and format characters, separators other than the space, code points without a
character, and characters that merge with the one before them.
-/

namespace JsxVNode.Text

/-- The characters that are seen, apart from the space. -/
def visible : CharSet :=
  .union Addition.all <|
    Category.anyOf (Category.letters ++ Category.marks ++ Category.numbers ++
      Category.punctuation ++ Category.symbols)

/-- The characters that merge with the one before them. -/
def merging : CharSet := .union Property.graphemeExtend Addition.graphemeExtend

/-- Whether a character is seen, and seen apart from the one before it. The characters from the
space to the tilde are. -/
def isPrintable (c : Char) : Bool :=
  ' ' ≤ c && c ≤ '~' || visible.contains c && !merging.contains c

/-- The escape of one character, or the character itself. -/
def quotedChar (c : Char) : String :=
  if c = '"' then "\\\""
  else if c = '\\' then "\\\\"
  else if c = '\n' then "\\n"
  else if c = '\r' then "\\r"
  else if c = '\t' then "\\t"
  else if c = '\x00' then "\\0"
  else if isPrintable c then String.singleton c
  else "\\u\x7b" ++ String.ofList (Nat.toDigits 16 c.toNat) ++ "\x7d"

/-- A text in quotes. -/
def quoted (text : String) : String :=
  "\"" ++ String.join (text.toList.map quotedChar) ++ "\""

end JsxVNode.Text
