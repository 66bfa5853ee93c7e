import JsxVNode.Text.Property

/-!
# Word characters

The characters that words are made of in some script: the alphabetic characters,
the marks that combine with them, decimal digits, the punctuation that connects
words, and the two joiners.
-/

namespace JsxVNode.Text

/-- The word characters, in one table. -/
def wordChars : List CharRange :=
  (CharSet.unionAll [Property.alphabetic, Property.joinControl,
    Category.anyOf (Category.marks ++ [.decimalNumber, .connectorPunctuation])]).toRanges

/-- Whether a character is part of words in some script. Of the first 128 these are the letters,
the digits and the underscore. -/
def isWordChar (c : Char) : Bool :=
  if c.toNat < 128 then c.isAlphanum || c == '_' else inRanges wordChars c

end JsxVNode.Text
