import JsxVNode.Text.Break.Grapheme

/-!
# Breaks between words

The classes here tell where a word ends; version 16 of the Unicode standard defines
them. Scripts that write words without blanks between them have no letters in this
sense.
-/

namespace JsxVNode.Text.Break.Word

open Category (anyOf)
open Grapheme (carriageReturn lineFeed zeroWidthJoiner)

/-- Characters that belong to the one before them. -/
def extend : CharSet :=
  .unionAll [Property.graphemeExtend, anyOf [.spacingMark], Property.emojiModifier]

/-- Characters that steer formatting inside a word. -/
def format : CharSet :=
  CharSet.diff (anyOf [.format]) <|
    .unionAll [Property.graphemeExtend, .ranges [.single 0x200B], zeroWidthJoiner,
      Grapheme.prepend]

/-- Ends of lines other than the carriage return and the line feed. -/
def newline : CharSet := .ranges <| readTable
  ["B-C 85 2028-2029"]

/-- Letters of Katakana, with the marks that are used among them. -/
def katakana : CharSet := .ranges <| readTable
  ["3031-3035 309B-309C 30A0-30FA 30FC-30FF 31F0-31FF 32D0-32FE 3300-3357 FF66-FF9D 1AFF0-1AFF3",
    "1AFF5-1AFFB 1AFFD-1AFFE 1B000 1B120-1B122 1B155 1B164-1B167"]

/-- Letters of Hebrew. -/
def hebrewLetter : CharSet := .ranges <| readTable
  ["5D0-5EA 5EF-5F2 FB1D FB1F-FB28 FB2A-FB36 FB38-FB3C FB3E FB40-FB41 FB43-FB44 FB46-FB4F"]

/-- Digits, and the signs that are part of numbers. -/
def numeric : CharSet :=
  .union (anyOf [.decimalNumber]) <| .ranges <| readTable
    ["600-605 66B 6DD 890-891 8E2 19DA 110BD 110CD"]

/-- Characters that count as letters by exception. -/
def otherLetter : CharSet := .ranges <| readTable
  ["2C2-2C5 2D2-2D7 2DE-2DF 2E5-2EB 2ED 2EF-2FF 55A-55C 55E 58A 5F3 70F A708-A716 A720-A721",
    "A789-A78A AB5B"]

/-- Letters of scripts that write no blanks between words. -/
def spacelessLetter : CharSet := .ranges <| readTable
  ["E01-E30 E32-E33 E40-E46 E81-E82 E84 E86-E8A E8C-EA3 EA5 EA7-EB0 EB2-EB3 EBD EC0-EC4 EC6",
    "EDC-EDF 1000-102A 103F 1050-1055 105A-105D 1061 1065-1066 106E-1070 1075-1081 108E 1780-17B3",
    "17D7 17DC 1950-196D 1970-1974 1980-19AB 19B0-19C9 1A20-1A54 1AA7 3041-3096 309D-309F",
    "A9E0-A9E4 A9E6-A9EF A9FA-A9FE AA60-AA76 AA7A AA7E-AAAF AAB1 AAB5-AAB6 AAB9-AABD AAC0 AAC2",
    "AADB-AADD 11700-1171A 11740-11746 1B001-1B11F 1B132 1B150-1B152"]

/-- Letters of scripts that write blanks between words. -/
def letter : CharSet :=
  CharSet.diff (.union Property.alphabetic otherLetter) <|
    .unionAll [Property.ideographic, katakana, extend, hebrewLetter, spacelessLetter]

/-- Punctuation that joins letters and digits. -/
def extendNumLet : CharSet :=
  .union (anyOf [.connectorPunctuation]) (.ranges [.single 0x202F])

/-- Spaces at which a line does not break. -/
def unbrokenSpace : CharSet := .ranges <| readTable
  ["A0 2007 202F"]

/-- Punctuation between letters. -/
def midLetter : CharSet := .ranges <| readTable
  ["3A B7 387 55F 5F4 2027 FE13 FE55 FF1A"]

/-- Punctuation between digits. -/
def midNum : CharSet := .ranges <| readTable
  ["2C 3B 37E 589 60C-60D 66C 7F8 2044 FE50 FE54 FF0C FF1B"]

/-- Punctuation between letters or between digits. -/
def midNumLet : CharSet := .ranges <| readTable
  ["2E 2018-2019 2024 FE52 FF07 FF0E"]

/-- The apostrophe on keyboards. -/
def singleQuote : CharSet := .ranges <| readTable
  ["27"]

/-- The quotation mark on keyboards. -/
def doubleQuote : CharSet := .ranges <| readTable
  ["22"]

/-- The classes with their names in small letters and without separators. -/
def named : List (List String × CharSet) := [
  (["aletter", "le"], letter),
  (["cr"], carriageReturn),
  (["doublequote", "dq"], doubleQuote),
  (["extend"], extend),
  (["extendnumlet", "ex"], extendNumLet),
  (["format", "fo"], format),
  (["hebrewletter", "hl"], hebrewLetter),
  (["katakana", "ka"], katakana),
  (["lf"], lineFeed),
  (["midletter", "ml"], midLetter),
  (["midnum", "mn"], midNum),
  (["midnumlet", "mb"], midNumLet),
  (["newline", "nl"], newline),
  (["numeric", "nu"], numeric),
  (["regionalindicator", "ri"], Property.regionalIndicator),
  (["singlequote", "sq"], singleQuote),
  (["wsegspace"], CharSet.diff (anyOf [.spaceSeparator]) unbrokenSpace),
  (["zwj"], zeroWidthJoiner)]

end JsxVNode.Text.Break.Word
