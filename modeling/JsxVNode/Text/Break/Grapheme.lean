import JsxVNode.Text.Property

/-!
# Breaks between user-perceived characters

What a reader takes for one character can be several: a letter and its marks, the
parts of a Korean syllable, a pictograph and its modifiers. The classes here tell
where one such cluster ends; version 16 of the Unicode standard defines them.
-/

namespace JsxVNode.Text.Break.Grapheme

open Category (anyOf)

/-- The carriage return. -/
def carriageReturn : CharSet := CharSet.single '\r'

/-- The line feed. -/
def lineFeed : CharSet := CharSet.single '\n'

/-- The character that joins pictographs. -/
def zeroWidthJoiner : CharSet := .ranges <| readTable
  ["200D"]

/-- Characters that belong to the one before them. -/
def extend : CharSet := .union Property.graphemeExtend Property.emojiModifier

/-- Characters that belong to the one after them. -/
def prepend : CharSet := .ranges <| readTable
  ["600-605 6DD 70F 890-891 8E2 D4E 110BD 110CD 111C2-111C3 113D1 1193F 11941 11A3A 11A84-11A89",
    "11D46 11F02"]

/-- Spacing marks that do not join the character before them. -/
def detachedMark : CharSet := .ranges <| readTable
  ["102B-102C 1038 1062-1064 1067-106D 1083 1087-108C 108F 109A-109C 1A61 1A63-1A64 AA7B AA7D",
    "11720-11721"]

/-- Spacing marks that belong to the character before them, and the vowel sign `am` of Thai and
of Lao. -/
def spacingMark : CharSet :=
  CharSet.diff (.union (anyOf [.spacingMark]) (.ranges [.single 0xE33, .single 0xEB3])) <|
    .union extend detachedMark

/-- Characters that stand alone. -/
def control : CharSet :=
  CharSet.diff (.unionAll [anyOf [.lineSeparator, .paragraphSeparator, .control, .format],
    .inter Category.unassigned Property.defaultIgnorable]) <|
    .unionAll [Property.graphemeExtend, carriageReturn, lineFeed, zeroWidthJoiner,
      Property.prependedConcatenationMark]

/-- Consonants that start a Korean syllable. -/
def leadingJamo : CharSet := .ranges <| readTable
  ["1100-115F A960-A97C"]

/-- Vowels of Korean, and those of Kirat Rai. -/
def vowelJamo : CharSet := .ranges <| readTable
  ["1160-11A7 D7B0-D7C6 16D63 16D67-16D6A"]

/-- Consonants that end a Korean syllable. -/
def trailingJamo : CharSet := .ranges <| readTable
  ["11A8-11FF D7CB-D7FB"]

/-- Korean syllables. The 28 syllables with the same start stand together, and the first of them
has no consonant at its end. -/
def syllable : CharSet := .ranges [⟨0xAC00, 0xD7A3⟩]

/-- Korean syllables without a consonant at their end. -/
def openSyllable : CharSet :=
  .ranges ((List.range 399).map fun index => .single (0xAC00 + 28 * index))

/-- The classes with their names in small letters and without separators. -/
def named : List (List String × CharSet) := [
  (["cn", "control"], control),
  (["cr"], carriageReturn),
  (["ex", "extend"], extend),
  (["l"], leadingJamo),
  (["lf"], lineFeed),
  (["lv"], openSyllable),
  (["lvt"], CharSet.diff syllable openSyllable),
  (["pp", "prepend"], prepend),
  (["ri", "regionalindicator"], Property.regionalIndicator),
  (["sm", "spacingmark"], spacingMark),
  (["t"], trailingJamo),
  (["v"], vowelJamo),
  (["zwj"], zeroWidthJoiner)]

end JsxVNode.Text.Break.Grapheme
