import JsxVNode.Text.Break.Word

/-!
# Breaks between sentences

The classes here tell where a sentence ends; version 16 of the Unicode standard
defines them.
-/

namespace JsxVNode.Text.Break.Sentence

open Category (anyOf)
open Grapheme (carriageReturn lineFeed zeroWidthJoiner)

/-- Characters that belong to the one before them. -/
def extend : CharSet :=
  .unionAll [Property.graphemeExtend, anyOf [.spacingMark], zeroWidthJoiner]

/-- Ends of paragraphs other than the carriage return and the line feed. -/
def separator : CharSet := .ranges <| readTable
  ["85 2028-2029"]

/-- Blanks inside a paragraph. -/
def space : CharSet :=
  CharSet.diff Property.whiteSpace (.unionAll [separator, carriageReturn, lineFeed])

/-- Digits, and the signs that are part of numbers. -/
def numeric : CharSet := .union Word.numeric (.ranges [.single 0x66C])

/-- Characters that steer formatting inside a sentence. -/
def format : CharSet :=
  CharSet.diff (anyOf [.format]) <|
    .unionAll [Property.graphemeExtend, zeroWidthJoiner, Word.numeric]

/-- Small letters of Georgian, which do not tell where a sentence starts. -/
def georgianSmall : CharSet := .ranges <| readTable
  ["10D0-10FA 10FD-10FF"]

/-- Capital letters of Georgian, which do not tell where a sentence starts. -/
def georgianCapital : CharSet := .ranges <| readTable
  ["1C90-1CBA 1CBD-1CBF"]

/-- Characters in lower case. -/
def lower : CharSet :=
  CharSet.diff Property.lowercase (.union Property.graphemeExtend georgianSmall)

/-- Characters in upper case or title case. -/
def upper : CharSet :=
  CharSet.diff (.union Property.uppercase (anyOf [.titlecaseLetter])) georgianCapital

/-- All other letters. -/
def otherLetter : CharSet :=
  .union (.ranges [.single 0x5F3]) <|
    CharSet.diff Property.alphabetic (.unionAll [lower, upper, extend])

/-- Full stops, which may also end an abbreviation. -/
def fullStop : CharSet := .ranges <| readTable
  ["2E 2024 FE52 FF0E"]

/-- Punctuation that continues a sentence. -/
def continuation : CharSet := .ranges <| readTable
  ["2C-2D 3A-3B 37E 55D 60C-60D 7F8 1802 1808 2013-2014 3001 FE10-FE11 FE13-FE14 FE31-FE32",
    "FE50-FE51 FE54-FE55 FE58 FE63 FF0C-FF0D FF1A-FF1B FF64"]

/-- Ornamental quotation marks, and signs of critical editions. -/
def ornament : CharSet := .ranges <| readTable
  ["275B-2760 2E00-2E01 2E06-2E08 2E0B 1F676-1F678"]

/-- Brackets and quotation marks, which go with the sentence that they end. -/
def close : CharSet :=
  CharSet.diff (.unionAll [Property.quotationMark, ornament,
    anyOf [.openPunctuation, .closePunctuation, .initialPunctuation, .finalPunctuation]]) <|
    .ranges [.single 0xFF02, .single 0xFF07]

/-- The classes with their names in small letters and without separators. -/
def named : List (List String × CharSet) := [
  (["aterm", "at"], fullStop),
  (["close", "cl"], close),
  (["cr"], carriageReturn),
  (["extend", "ex"], extend),
  (["format", "fo"], format),
  (["lf"], lineFeed),
  (["lower", "lo"], lower),
  (["numeric", "nu"], numeric),
  (["oletter", "le"], otherLetter),
  (["scontinue", "sc"], continuation),
  (["sep", "se"], separator),
  (["sp"], space),
  (["sterm", "st"], CharSet.diff Property.sentenceTerminal fullStop),
  (["upper", "up"], upper)]

end JsxVNode.Text.Break.Sentence
