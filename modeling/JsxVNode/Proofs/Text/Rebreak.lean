import JsxVNode.Proofs.Text.Display

/-!
# Text with other line breaks

The style of the line breaks does not matter. With other breaks in the same places a
text has the same lines, even if two of the new breaks go together, so it is displayed
the same. What is displayed is one line without tabs, which is displayed as it is. Of
the characters that are seen none is lost, added or moved.
-/

namespace JsxVNode.Text

/-- The same lines with other breaks between them, each chosen by its number. -/
def Broken.withMarks (b : Broken) (marks : Nat → LineBreak) : Broken :=
  ⟨b.first, b.rest.mapIdx fun i (_, line) => (marks i, line)⟩

/-- Other breaks leave the lines as they are. -/
theorem Broken.lines_withMarks (b : Broken) (marks : Nat → LineBreak) :
    (b.withMarks marks).lines = b.lines := by
  obtain ⟨first, rest⟩ := b
  refine congrArg (first :: ·) (List.ext_getElem? fun i => ?_)
  simp only [withMarks, List.getElem?_map, List.getElem?_mapIdx, Option.map_map]
  rfl

/-- A character that is neither a space nor a tab nor part of a line break. -/
def isInk (c : Char) : Bool := c ≠ ' ' ∧ c ≠ '\t' ∧ c ≠ '\r' ∧ c ≠ '\n'

section Ink

variable (line : List Char)

/-- A tab and the space it counts as are both left out. -/
theorem filter_isInk_map_untab : (line.map untab).filter isInk = line.filter isInk := by
  induction line with
  | nil => rfl
  | cons c line ih =>
    by_cases hc : c = '\t'
    · subst hc
      exact ih
    · rw [List.map_cons, List.filter_cons, List.filter_cons, ih, untab, if_neg hc]

/-- Only spaces are dropped at the start. -/
theorem filter_isInk_trimStart : (trimStart line).filter isInk = line.filter isInk := by
  induction line with
  | nil => rfl
  | cons c line ih =>
    by_cases hc : c = ' '
    · subst hc
      exact ih
    · rw [trimStart, List.dropWhile_cons_of_neg (by simpa using hc)]

/-- Only spaces are dropped at the end. -/
theorem filter_isInk_trimEnd : (trimEnd line).filter isInk = line.filter isInk := by
  rw [trimEnd, List.filter_reverse, show List.dropWhile _ _ = trimStart line.reverse from rfl,
    filter_isInk_trimStart, List.filter_reverse, List.reverse_reverse]

/-- Whatever its number is, a line keeps what is seen of it. -/
theorem filter_isInk_displayedLine (count number : Nat) :
    (displayedLine count number line).filter isInk = line.filter isInk := by
  unfold displayedLine
  dsimp only
  generalize hstart : (if number = 0 then _ else _) = start
  have hink : start.filter isInk = line.filter isInk := by
    rw [← hstart, ← filter_isInk_map_untab line]
    split
    · rfl
    · exact filter_isInk_trimStart _
  split
  · exact hink
  · exact (filter_isInk_trimEnd start).trans hink

end Ink

/-- The spaces that join lines are not seen. -/
theorem filter_isInk_intercalate (lines : List (List Char)) :
    ([' '].intercalate lines).filter isInk = lines.flatten.filter isInk := by
  induction lines with
  | nil => rfl
  | cons line lines ih =>
    cases lines with
    | nil => simp
    | cons next lines =>
      rw [List.intercalate_cons_cons, List.filter_append, List.filter_append, ih,
        List.flatten_cons (l := line), List.filter_append]
      simp [isInk]

/-- The characters of a text that are seen are those of its lines. -/
theorem Broken.filter_isInk_chars (b : Broken) :
    b.chars.filter isInk = b.lines.flatten.filter isInk := by
  obtain ⟨first, rest⟩ := b
  have hrest : (restChars rest).filter isInk = (rest.map (·.2)).flatten.filter isInk := by
    induction rest with
    | nil => rfl
    | cons head rest ih =>
      obtain ⟨mark, line⟩ := head
      have hmark : mark.chars.filter isInk = [] := by cases mark <;> decide
      rw [restChars_cons, List.filter_append, List.filter_append, ih, hmark]
      simp
  rw [chars_mk, lines_mk, List.flatten_cons, List.filter_append, List.filter_append, hrest]

/-- What is displayed has the seen characters of all lines in order. -/
theorem filter_isInk_displayed (lines : List (List Char)) :
    (displayed lines).filter isInk = lines.flatten.filter isInk := by
  have hkept : (trimmed lines).map (List.filter isInk) = lines.map (List.filter isInk) := by
    rw [trimmed_eq_mapIdx]
    refine List.ext_getElem? fun i => ?_
    simp only [List.getElem?_map, List.getElem?_mapIdx, Option.map_map, Function.comp_def,
      filter_isInk_displayedLine]
  rw [displayed_eq_intercalate, filter_isInk_intercalate, List.flatten_filter_ne_nil,
    List.filter_flatten, hkept, ← List.filter_flatten]

/-- A joined line is made of the lines and of spaces. -/
theorem mem_intercalate_space {c : Char} {lines : List (List Char)}
    (h : c ∈ [' '].intercalate lines) : c = ' ' ∨ ∃ line ∈ lines, c ∈ line := by
  induction lines with
  | nil => cases h
  | cons line lines ih =>
    cases lines with
    | nil => exact .inr ⟨line, List.mem_cons_self, by simpa using h⟩
    | cons next lines =>
      rw [List.intercalate_cons_cons, List.mem_append, List.mem_append] at h
      obtain (hline | hspace) | hlines := h
      · exact .inr ⟨line, List.mem_cons_self, hline⟩
      · exact .inl (List.mem_singleton.mp hspace)
      · obtain hc | ⟨other, hother, hc⟩ := ih hlines
        · exact .inl hc
        · exact .inr ⟨other, List.mem_cons_of_mem line hother, hc⟩

/-- Trimming a line adds no characters. -/
theorem displayedLine_sublist (count number : Nat) (line : List Char) :
    (displayedLine count number line).Sublist (line.map untab) := by
  unfold displayedLine
  dsimp only
  generalize hstart : (if number = 0 then _ else _) = start
  have hsub : start.Sublist (line.map untab) := by
    rw [← hstart]
    split
    · exact List.Sublist.refl _
    · exact List.dropWhile_sublist _
  split
  · exact hsub
  · exact (List.rdropWhile_prefix _ start).sublist.trans hsub

/-- A displayed character is a space or, with tabs as spaces, a character of a line. -/
theorem mem_displayed {c : Char} {lines : List (List Char)} (h : c ∈ displayed lines) :
    c = ' ' ∨ ∃ line ∈ lines, c ∈ line.map untab := by
  rw [displayed_eq_intercalate, trimmed_eq_mapIdx] at h
  obtain hc | ⟨line, hline, hc⟩ := mem_intercalate_space h
  · exact .inl hc
  · obtain ⟨i, hi, rfl⟩ := List.mem_mapIdx.mp (List.mem_of_mem_filter hline)
    exact .inr ⟨lines[i], List.getElem_mem hi, (displayedLine_sublist _ _ _).mem hc⟩

/-- What is displayed of unbroken lines is one line without tabs. -/
theorem not_mem_displayed {lines : List (List Char)} (h : ∀ line ∈ lines, Unbroken line) {c : Char}
    (hc : c ∈ displayed lines) : c ≠ '\t' ∧ c ≠ '\r' ∧ c ≠ '\n' := by
  obtain rfl | ⟨line, hline, hmem⟩ := mem_displayed hc
  · decide
  · obtain ⟨d, hd, rfl⟩ := List.mem_map.mp hmem
    have hlf : d ≠ '\n' := ne_of_mem_of_not_mem hd (h line hline).1
    have hcr : d ≠ '\r' := ne_of_mem_of_not_mem hd (h line hline).2
    unfold untab
    split
    · decide
    · rename_i htab
      exact ⟨htab, hcr, hlf⟩

/-- One line without tabs is displayed as it is. -/
theorem flatten_eq_self {text : String}
    (h : ∀ c ∈ text.toList, c ≠ '\t' ∧ c ≠ '\r' ∧ c ≠ '\n') : flatten text = text := by
  have huntab : text.toList.map untab = text.toList :=
    (List.map_congr_left fun c hc => if_neg (h c hc).1).trans (List.map_id _)
  rw [flatten, flattenChars_of_unbroken (fun hlf => (h _ hlf).2.2 rfl) fun hcr => (h _ hcr).2.1 rfl,
    huntab, String.ofList_toList]

/-- Text is displayed the same with any other line breaks in the places of its own, even if two of
them go together. What is displayed is displayed as it is, has no tab and no break in it, and has
the seen characters of the text in order. -/
theorem flatten_rebroken (text : String) :
    (∃ b : Broken, (∀ other : Broken, other.IsReadingOf text.toList ↔ other = b) ∧
      ∀ marks : Nat → LineBreak,
        flatten (String.ofList (b.withMarks marks).chars) = flatten text) ∧
    flatten (flatten text) = flatten text ∧
    (∀ c ∈ (flatten text).toList, c ≠ '\t' ∧ c ≠ '\r' ∧ c ≠ '\n') ∧
    (flatten text).toList.filter isInk = text.toList.filter isInk := by
  have hread := Broken.isReadingOf_read text.toList
  have hclean : ∀ c ∈ (flatten text).toList, c ≠ '\t' ∧ c ≠ '\r' ∧ c ≠ '\n' := by
    rw [toList_flatten]
    exact fun c => not_mem_displayed hread.unbroken
  refine ⟨⟨_, fun _ => Broken.isReadingOf_iff, fun marks => ?_⟩, flatten_eq_self hclean, hclean, ?_⟩
  · have hlines := (Broken.read text.toList).lines_withMarks marks
    rw [← String.toList_inj, toList_flatten text, ← hlines, flatten, String.toList_ofList,
      String.toList_ofList, flattenChars_chars (hlines ▸ hread.unbroken)]
  · rw [toList_flatten, filter_isInk_displayed, ← Broken.filter_isInk_chars, hread.chars_eq]

end JsxVNode.Text
