/-!
# Inline text

Markup text is read the way it is displayed. It is broken into lines; a tab counts
as a space; spaces that touch a line break are dropped, and so are the lines that
nothing is left of; the remaining lines are joined by single spaces. Text on one
line keeps the spaces at its ends.
-/

namespace JsxVNode.Text

/-- The lines of a text. A line ends at a line feed, at a carriage return, or at both in a row. -/
def lines : List Char → List (List Char)
  | [] => [[]]
  | '\r' :: '\n' :: rest => [] :: lines rest
  | c :: rest =>
    if c = '\n' ∨ c = '\r' then
      [] :: lines rest
    else
      match lines rest with
      | [] => [[c]]
      | line :: more => (c :: line) :: more

/-- A tab counts as a space. -/
def untab (c : Char) : Char := if c = '\t' then ' ' else c

/-- A line without the spaces it starts with. -/
def trimStart (line : List Char) : List Char := line.dropWhile (· == ' ')

/-- A line without the spaces it ends with. -/
def trimEnd (line : List Char) : List Char := (line.reverse.dropWhile (· == ' ')).reverse

/-- Drops the spaces at the start of each line that follows a break. -/
def trimAfterBreak : List (List Char) → List (List Char)
  | [] => []
  | first :: rest => first :: rest.map trimStart

/-- Drops the spaces at the end of each line that a break follows. -/
def trimBeforeBreak : List (List Char) → List (List Char)
  | [] => []
  | [last] => [last]
  | line :: rest => trimEnd line :: trimBeforeBreak rest

/-- The characters of a text as they are displayed inline. -/
def flattenChars (text : List Char) : List Char :=
  let kept := trimBeforeBreak (trimAfterBreak ((lines text).map (·.map untab)))
  [' '].intercalate (kept.filter (· ≠ []))

/-- A text as it is displayed inline. -/
def flatten (text : String) : String := String.ofList (flattenChars text.toList)

/-- Text without a line break is one line. -/
theorem lines_of_unbroken {text : List Char} (hlf : '\n' ∉ text) (hcr : '\r' ∉ text) :
    lines text = [text] := by
  induction text with
  | nil => rfl
  | cons c rest ih =>
    simp only [List.mem_cons, not_or] at hlf hcr
    have hc : ¬ (c = '\n' ∨ c = '\r') := by
      rintro (rfl | rfl)
      · exact hlf.1 rfl
      · exact hcr.1 rfl
    rw [lines, if_neg hc, ih hlf.2 hcr.2]
    rintro rest rfl
    exact absurd rfl hcr.1

/-- One line is displayed with its tabs as spaces and is not changed otherwise. -/
theorem flattenChars_of_unbroken {text : List Char} (hlf : '\n' ∉ text) (hcr : '\r' ∉ text) :
    flattenChars text = text.map untab := by
  unfold flattenChars
  rw [lines_of_unbroken hlf hcr]
  cases text with
  | nil => rfl
  | cons c rest => simp [trimAfterBreak, trimBeforeBreak, List.intercalate]

/-- With tabs as spaces a line is a word without spaces and tabs only if it is that word. -/
theorem map_untab_eq_iff {line word : List Char} (hspace : ' ' ∉ word) (htab : '\t' ∉ word) :
    line.map untab = word ↔ line = word := by
  have hchar {c d : Char} (hs : d ≠ ' ') (ht : d ≠ '\t') : untab c = d ↔ c = d := by
    unfold untab
    split
    · rename_i hc
      rw [hc]
      exact ⟨fun h => absurd h.symm hs, fun h => absurd h.symm ht⟩
    · rfl
  induction line generalizing word with
  | nil => exact Iff.rfl
  | cons c line ih =>
    cases word with
    | nil => simp
    | cons d word =>
      simp only [List.mem_cons, not_or] at hspace htab
      rw [List.map_cons, List.cons.injEq, List.cons.injEq]
      exact and_congr (hchar (Ne.symm hspace.1) (Ne.symm htab.1)) (ih hspace.2 htab.2)

/-- One line is displayed as a word without spaces and tabs only if it is that word. -/
theorem flatten_eq_iff_of_unbroken {text word : String} (hlf : '\n' ∉ text.toList)
    (hcr : '\r' ∉ text.toList) (hspace : ' ' ∉ word.toList) (htab : '\t' ∉ word.toList) :
    flatten text = word ↔ text = word := by
  rw [flatten, flattenChars_of_unbroken hlf hcr, ← String.toList_inj, String.toList_ofList,
    map_untab_eq_iff hspace htab, String.toList_inj]

end JsxVNode.Text
