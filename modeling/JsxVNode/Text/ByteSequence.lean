import JsxVNode.Text.CharRange

/-!
# Byte sequences

A range of characters is a set of texts in UTF-8. It splits into sequences of byte
ranges: a text belongs to a sequence if each of its bytes lies in the range at the
same position. The sequences are in the order of the characters.
-/

namespace JsxVNode.Text

/-- The sequences for the code points from `first` to `last`, written with a leading byte, which
starts at `base`, and with further bytes of six bits each. -/
private def sequencesFrom (base : Nat) : (further first last : Nat) → List (List CharRange)
  | 0, first, last => [[⟨base + first, base + last⟩]]
  | further + 1, first, last =>
    let unit := Nat.pow 64 (further + 1)
    let low := first / unit
    let high := last / unit
    let under (lead first last : Nat) : List (List CharRange) :=
      (sequencesFrom 0x80 further first last).map (.single (base + lead) :: ·)
    if low = high then under low (first % unit) (last % unit)
    else
      let fromStart := first % unit == 0
      let toEnd := last % unit == unit - 1
      let whole : CharRange :=
        ⟨if fromStart then low else low + 1, if toEnd then high else high - 1⟩
      (if fromStart then [] else under low (first % unit) (unit - 1)) ++
      (if whole.first ≤ whole.last then
        [⟨base + whole.first, base + whole.last⟩ :: List.replicate (further + 1) ⟨0x80, 0xBF⟩]
      else []) ++
      (if toEnd then [] else under high 0 (last % unit))

/-- The code points by the number of bytes after the first, with the base of the first. The code
points between the two blocks of three bytes are no characters. -/
private def blocks : List (Nat × Nat × CharRange) :=
  [(0, 0, ⟨0, 0x7F⟩), (1, 0xC0, ⟨0x80, 0x7FF⟩), (2, 0xE0, ⟨0x800, 0xD7FF⟩),
    (2, 0xE0, ⟨0xE000, 0xFFFF⟩), (3, 0xF0, ⟨0x10000, 0x10FFFF⟩)]

/-- The sequences of byte ranges for a range of characters. -/
def CharRange.byteSequences (r : CharRange) : List (List CharRange) :=
  blocks.flatMap fun (further, base, block) =>
    let first := max r.first block.first
    let last := min r.last block.last
    if first ≤ last then sequencesFrom base further first last else []

end JsxVNode.Text
