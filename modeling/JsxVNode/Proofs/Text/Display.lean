import Mathlib.Data.List.Chain
import Mathlib.Data.List.DropRight
import Mathlib.Data.List.TakeWhile
import JsxVNode.Text.Flatten

/-!
# How text is displayed

A text is read as its first line and, after each of its line breaks, another line.
There is one such reading of each text, since a line feed after a carriage return never
counts by itself. What is displayed is said line by line, from the number of the line
and the number of all lines. It depends on the lines alone: where two breaks that were
written one after the other are read as one, only an empty line between others is lost,
and nothing of such a line is displayed.
-/

namespace JsxVNode.Text

/-- A line break: both characters in a row, a line feed, or a carriage return. -/
inductive LineBreak where
  | crlf
  | lf
  | cr
  deriving DecidableEq, Repr

/-- The characters of a line break. -/
def LineBreak.chars : LineBreak → List Char
  | .crlf => ['\r', '\n']
  | .lf => ['\n']
  | .cr => ['\r']

/-- A line without a line break in it. -/
def Unbroken (line : List Char) : Prop := '\n' ∉ line ∧ '\r' ∉ line

@[simp] theorem unbroken_nil : Unbroken [] := ⟨List.not_mem_nil, List.not_mem_nil⟩

/-- A line is unbroken if its first character is no line break and the rest is unbroken. -/
@[simp] theorem unbroken_cons {c : Char} {line : List Char} :
    Unbroken (c :: line) ↔ (c ≠ '\n' ∧ c ≠ '\r') ∧ Unbroken line := by
  simp only [Unbroken, List.mem_cons, not_or, ne_eq, eq_comm]
  tauto

/-- A text taken apart: its first line, and each line break with the line after it. -/
@[ext]
structure Broken where
  first : List Char
  rest : List (LineBreak × List Char)
  deriving DecidableEq, Repr

namespace Broken

variable {b : Broken} {text : List Char}

/-- The lines after the first with the breaks before them, as one text. -/
def restChars (rest : List (LineBreak × List Char)) : List Char :=
  rest.flatMap fun (mark, line) => mark.chars ++ line

/-- The text that was taken apart. -/
def chars (b : Broken) : List Char := b.first ++ restChars b.rest

/-- All lines. -/
def lines (b : Broken) : List (List Char) := b.first :: b.rest.map (·.2)

/-- The parts are the reading of a text: they make up the text, no break stands in a line, and a
carriage return and a line feed in a row are not taken for two breaks. -/
structure IsReadingOf (b : Broken) (text : List Char) : Prop where
  chars_eq : b.chars = text
  unbroken : ∀ line ∈ b.lines, Unbroken line
  greedy : b.rest.IsChain fun before after =>
    ¬ (before.1 = .cr ∧ before.2 = [] ∧ after.1 = .lf)

@[simp] theorem restChars_nil : restChars [] = [] := rfl

@[simp] theorem restChars_cons (mark : LineBreak) (line : List Char)
    (rest : List (LineBreak × List Char)) :
    restChars ((mark, line) :: rest) = mark.chars ++ (line ++ restChars rest) := by
  simp [restChars]

@[simp] theorem chars_mk (first : List Char) (rest : List (LineBreak × List Char)) :
    chars ⟨first, rest⟩ = first ++ restChars rest := rfl

@[simp] theorem lines_mk (first : List Char) (rest : List (LineBreak × List Char)) :
    lines ⟨first, rest⟩ = first :: rest.map (·.2) := rfl

/-- A character in front of the first line. -/
def cons (c : Char) (b : Broken) : Broken := ⟨c :: b.first, b.rest⟩

/-- An empty line and a break in front of the first line. -/
def after (mark : LineBreak) (b : Broken) : Broken := ⟨[], (mark, b.first) :: b.rest⟩

/-- The reading of a text. -/
def read : List Char → Broken
  | [] => ⟨[], []⟩
  | '\r' :: '\n' :: rest => after .crlf (read rest)
  | c :: rest =>
    if c = '\n' then after .lf (read rest)
    else if c = '\r' then after .cr (read rest)
    else cons c (read rest)

/-- Text that starts with a line feed has that break first. -/
theorem exists_eq_lf (hb : ∀ line ∈ b.lines, Unbroken line) (h : b.chars.head? = some '\n') :
    ∃ line more, b = ⟨[], (.lf, line) :: more⟩ := by
  obtain ⟨first, rest⟩ := b
  cases first with
  | cons c first =>
    have hc : c = '\n' := Option.some.inj h
    exact absurd hc (unbroken_cons.mp (hb _ List.mem_cons_self)).1.1
  | nil =>
    rcases rest with _ | ⟨⟨mark, line⟩, more⟩
    · cases h
    · cases mark with
      | lf => exact ⟨line, more, rfl⟩
      | crlf => cases h
      | cr => cases h

/-- A line is read as it is, in front of the first line of what follows. -/
theorem read_append {line : List Char} (h : Unbroken line) (text : List Char) :
    read (line ++ text) = ⟨line ++ (read text).first, (read text).rest⟩ := by
  induction line with
  | nil => rfl
  | cons c line ih =>
    obtain ⟨⟨hlf, hcr⟩, hline⟩ := unbroken_cons.mp h
    rw [List.cons_append, read, if_neg hlf, if_neg hcr, ih hline]
    · rfl
    · rintro rest rfl
      exact absurd rfl hcr

/-- A break is read as that break, if it is not a carriage return in front of a line feed. -/
theorem read_mark {mark : LineBreak} (h : mark = .cr → text.head? ≠ some '\n') :
    read (mark.chars ++ text) = after mark (read text) := by
  cases mark with
  | crlf => rfl
  | lf => rfl
  | cr =>
    change read ('\r' :: text) = _
    rw [read, if_neg (by decide), if_pos rfl]
    rintro rest - rfl
    exact h rfl rfl

/-- One more character in front belongs to the first line. -/
theorem IsReadingOf.cons {c : Char} (h : b.IsReadingOf text) (hc : c ≠ '\n' ∧ c ≠ '\r') :
    (b.cons c).IsReadingOf (c :: text) where
  chars_eq := congrArg (c :: ·) h.chars_eq
  unbroken := by
    have hlines := List.forall_mem_cons.mp h.unbroken
    exact List.forall_mem_cons.mpr ⟨unbroken_cons.mpr ⟨hc, hlines.1⟩, hlines.2⟩
  greedy := h.greedy

/-- One more break in front begins a new line, where a carriage return must not meet a line feed. -/
theorem IsReadingOf.after {mark : LineBreak} (h : b.IsReadingOf text)
    (hmark : mark = .cr → text.head? ≠ some '\n') :
    (b.after mark).IsReadingOf (mark.chars ++ text) where
  chars_eq := by rw [← h.chars_eq]; exact restChars_cons mark b.first b.rest
  unbroken := List.forall_mem_cons.mpr ⟨unbroken_nil, h.unbroken⟩
  greedy := by
    refine List.isChain_cons.mpr ⟨?_, h.greedy⟩
    rintro ⟨next, line⟩ hnext ⟨hcr, hfirst : b.first = [], hlf : next = .lf⟩
    obtain ⟨more, hmore⟩ := List.head?_eq_some_iff.mp hnext
    refine hmark hcr ?_
    rw [← h.chars_eq, chars, hfirst, hmore, hlf]
    rfl

/-- What is read is a reading. -/
theorem isReadingOf_read (text : List Char) : (read text).IsReadingOf text := by
  fun_induction read text with
  | case1 => exact ⟨rfl, by simp, .nil⟩
  | case2 rest ih => exact ih.after (by simp)
  | case3 rest _ ih => exact ih.after (by simp)
  | case4 rest hrest _ ih =>
    refine ih.after fun _ hhead => ?_
    obtain ⟨more, hmore⟩ := List.head?_eq_some_iff.mp hhead
    exact hrest more rfl hmore
  | case5 c rest _ hlf hcr ih => exact ih.cons ⟨hlf, hcr⟩

/-- There is no other reading. The induction is on the breaks. -/
theorem IsReadingOf.eq_read (h : b.IsReadingOf text) : b = read text := by
  obtain ⟨first, rest⟩ := b
  obtain ⟨rfl, hlines, hgreedy⟩ := h
  induction rest generalizing first with
  | nil =>
    rw [chars_mk, read_append (hlines first List.mem_cons_self)]
    simp [read]
  | cons head rest ih =>
    obtain ⟨mark, line⟩ := head
    have hrest := (List.forall_mem_cons.mp hlines).2
    have hmark : mark = .cr → (line ++ restChars rest).head? ≠ some '\n' := by
      intro hcr hhead
      obtain ⟨other, more, hlf⟩ := exists_eq_lf (b := ⟨line, rest⟩) hrest hhead
      obtain ⟨rfl, rfl⟩ := Broken.mk.inj hlf
      exact (List.isChain_cons_cons.mp hgreedy).1 ⟨hcr, rfl, rfl⟩
    rw [chars_mk, restChars_cons, read_append (hlines first List.mem_cons_self), read_mark hmark,
      show line ++ restChars rest = chars ⟨line, rest⟩ from rfl, ← ih line hrest hgreedy.of_cons]
    exact congrArg (fun line => Broken.mk line ((mark, _) :: rest)) (List.append_nil first).symm

/-- Each text has exactly one reading. -/
theorem isReadingOf_iff : b.IsReadingOf text ↔ b = read text :=
  ⟨IsReadingOf.eq_read, fun h => h ▸ isReadingOf_read text⟩

/-- The lines of a text are those of its reading. -/
theorem lines_read (text : List Char) : (read text).lines = Text.lines text := by
  fun_induction read text with
  | case1 => rfl
  | case2 rest ih => exact congrArg ([] :: ·) ih
  | case3 rest hrest ih =>
    rw [Text.lines, if_pos (.inl rfl), ← ih]
    · rfl
    · rintro rest ⟨⟩
  | case4 rest hrest hlf ih =>
    rw [Text.lines, if_pos (.inr rfl), ← ih]
    · rfl
    · exact hrest
  | case5 c rest hrest hlf hcr ih =>
    rw [Text.lines, if_neg (not_or.mpr ⟨hlf, hcr⟩), ← ih]
    · rfl
    · exact hrest

end Broken

/-- Whether a character other than a space and a tab stands in a line. -/
def isSeen (line : List Char) : Bool := line.any fun c => c ≠ ' ' ∧ c ≠ '\t'

/-- What is displayed of a line, from its number and the number of all lines: tabs are spaces,
the spaces at the start are dropped except in the first line, and those at the end except in the
last. -/
def displayedLine (count number : Nat) (line : List Char) : List Char :=
  let line := line.map untab
  let line := if number = 0 then line else line.dropWhile (· = ' ')
  if number + 1 = count then line else line.rdropWhile (· = ' ')

/-- What is displayed of all lines. One line is displayed with all its spaces. Of several lines
those in which something is seen are displayed, joined by single spaces. -/
def displayed : List (List Char) → List Char
  | [line] => line.map untab
  | lines =>
    let seen := lines.zipIdx.filter fun (line, _) => isSeen line
    [' '].intercalate (seen.map fun (line, number) => displayedLine lines.length number line)

/-- Trimming after the breaks leaves out the first line. -/
theorem getElem?_trimAfterBreak (lines : List (List Char)) (i : Nat) :
    (trimAfterBreak lines)[i]? =
      lines[i]?.map fun line => if i = 0 then line else trimStart line := by
  cases lines with
  | nil => rfl
  | cons first rest => cases i <;> simp [trimAfterBreak]

/-- Trimming keeps the number of lines. -/
@[simp] theorem length_trimAfterBreak (lines : List (List Char)) :
    (trimAfterBreak lines).length = lines.length := by
  cases lines <;> simp [trimAfterBreak]

/-- Trimming before the breaks leaves out the last line. -/
theorem getElem?_trimBeforeBreak (lines : List (List Char)) (i : Nat) :
    (trimBeforeBreak lines)[i]? =
      lines[i]?.map fun line => if i + 1 = lines.length then line else trimEnd line := by
  induction lines generalizing i with
  | nil => rfl
  | cons line rest ih =>
    cases rest with
    | nil => cases i <;> simp [trimBeforeBreak]
    | cons next rest =>
      cases i with
      | zero => simp [trimBeforeBreak]
      | succ i => simpa [trimBeforeBreak] using ih i

/-- The lines with the spaces at their breaks dropped, empty lines among them. -/
def trimmed (lines : List (List Char)) : List (List Char) :=
  trimBeforeBreak (trimAfterBreak (lines.map (·.map untab)))

/-- What trimming leaves of a line after a break, before its end is trimmed. -/
def afterBreak (line : List Char) : List Char := trimStart (line.map untab)

/-- The first line keeps the space in front of it, and no other line does. -/
theorem trimmed_cons (first : List Char) (rest : List (List Char)) :
    trimmed (first :: rest) = trimBeforeBreak (first.map untab :: rest.map afterBreak) := by
  simp only [trimmed, trimAfterBreak, List.map_cons, List.map_map]
  rfl

/-- Trimming treats each line by its number. -/
theorem trimmed_eq_mapIdx (lines : List (List Char)) :
    trimmed lines = lines.mapIdx (displayedLine lines.length) := by
  refine List.ext_getElem? fun i => ?_
  rw [trimmed, getElem?_trimBeforeBreak, getElem?_trimAfterBreak]
  simp only [List.getElem?_map, List.getElem?_mapIdx, Option.map_map, length_trimAfterBreak,
    List.length_map]
  rfl

/-- Nothing but spaces is left of a line with its tabs as spaces exactly if nothing is seen in
it. -/
theorem forall_untab_eq_space_iff {line : List Char} :
    (∀ c ∈ line.map untab, c = ' ') ↔ isSeen line = false := by
  simp only [List.forall_mem_map, isSeen, List.any_eq_false, untab, decide_eq_true_eq, not_and,
    not_not]
  refine forall₂_congr fun c _ => ?_
  split
  · rename_i htab
    simp [htab]
  · rename_i htab
    simp [htab]

/-- A trimmed line among several is empty exactly if nothing is seen in it. -/
theorem displayedLine_eq_nil_iff {count number : Nat} (h : ¬ (number = 0 ∧ count = 1))
    (line : List Char) :
    displayedLine count number line = [] ↔ isSeen line = false := by
  rw [← forall_untab_eq_space_iff]
  unfold displayedLine
  by_cases hfirst : number = 0
  · have hlast : number + 1 ≠ count := by omega
    simp only [if_pos hfirst, if_neg hlast, List.rdropWhile_eq_nil_iff, decide_eq_true_eq]
  · by_cases hlast : number + 1 = count
    · simp only [if_neg hfirst, if_pos hlast, List.dropWhile_eq_nil_iff, decide_eq_true_eq]
    · -- A line whose start is trimmed has only spaces left if nothing is left.
      simp only [if_neg hfirst, if_neg hlast]
      rw [List.rdropWhile_eq_nil_iff, ← List.dropWhile_eq_nil_iff, List.dropWhile_idempotent,
        List.dropWhile_eq_nil_iff]
      simp only [decide_eq_true_eq]

/-- What is displayed is what trimming leaves, without its empty lines. -/
theorem displayed_eq_intercalate (lines : List (List Char)) :
    displayed lines = [' '].intercalate ((trimmed lines).filter (· ≠ [])) := by
  match lines with
  | [] => rfl
  | [line] =>
    change line.map untab = [' '].intercalate ([line.map untab].filter (· ≠ []))
    cases line with
    | nil => rfl
    | cons c line => simp
  | first :: second :: rest =>
    rw [displayed, trimmed_eq_mapIdx, List.mapIdx_eq_zipIdx_map, List.filter_map]
    · congr 2
      refine List.filter_congr fun (line, number) _ => ?_
      have hcount : ¬ (number = 0 ∧ (first :: second :: rest).length = 1) := by simp
      have hseen := displayedLine_eq_nil_iff hcount line
      cases hline : isSeen line <;> simp_all
    · simp

/-- Lines without some of the empty lines that stand in front of others. -/
inductive Fused : List (List Char) → List (List Char) → Prop where
  | nil : Fused [] []
  | keep (line : List Char) {fused lines : List (List Char)} (h : Fused fused lines) :
      Fused (line :: fused) (line :: lines)
  | fuse {line : List Char} {fused lines : List (List Char)} (h : Fused (line :: fused) lines) :
      Fused (line :: fused) ([] :: lines)

/-- Nothing is left of an empty line, so that nothing is lost with it. -/
theorem Fused.filter_trimBeforeBreak {fused lines : List (List Char)} (h : Fused fused lines)
    (line : List Char) :
    (trimBeforeBreak (line :: fused.map afterBreak)).filter (· ≠ []) =
      (trimBeforeBreak (line :: lines.map afterBreak)).filter (· ≠ []) := by
  induction h generalizing line with
  | nil => rfl
  | keep next _ ih =>
    simp only [List.map_cons, trimBeforeBreak, List.filter_cons]
    rw [ih]
  | fuse _ ih =>
    have hempty := ih []
    simp only [List.map_cons, trimBeforeBreak, List.filter_cons] at hempty ⊢
    rw [if_neg (by decide)] at hempty
    rw [hempty]
    rfl

/-- Where breaks are read as one, an empty line between others is lost. -/
theorem Broken.exists_fused {b : Broken} (h : ∀ line ∈ b.lines, Unbroken line) :
    ∃ rest, read b.chars = ⟨b.first, rest⟩ ∧ Fused (rest.map (·.2)) (b.rest.map (·.2)) := by
  obtain ⟨first, rest⟩ := b
  induction rest generalizing first with
  | nil =>
    refine ⟨[], ?_, .nil⟩
    rw [chars_mk, read_append (h first List.mem_cons_self)]
    exact congrArg (Broken.mk · []) (List.append_nil first)
  | cons head rest ih =>
    obtain ⟨mark, line⟩ := head
    obtain ⟨hfirst, hrest⟩ := List.forall_mem_cons.mp h
    obtain ⟨after, hread, hfused⟩ := ih line hrest
    rw [chars_mk, restChars_cons, read_append hfirst]
    by_cases hmark : mark = .cr → (line ++ restChars rest).head? ≠ some '\n'
    · refine ⟨(mark, line) :: after, ?_, .keep line hfused⟩
      rw [read_mark hmark, ← chars_mk, hread, Broken.after, List.append_nil]
    · -- The carriage return goes together with the line feed after the empty line.
      obtain ⟨rfl, hhead⟩ := Classical.not_imp.mp hmark
      obtain ⟨next, more, hlf⟩ := exists_eq_lf (b := ⟨line, rest⟩) hrest (not_not.mp hhead)
      obtain ⟨rfl, rfl⟩ := Broken.mk.inj hlf
      let below := read (next ++ restChars more)
      have hbelow : read (LineBreak.lf.chars ++ (next ++ restChars more)) = .after .lf below :=
        read_mark nofun
      obtain rfl := (Broken.mk.inj (hbelow.symm.trans hread)).2
      refine ⟨(.crlf, below.first) :: below.rest, ?_, .fuse hfused⟩
      exact congrArg (Broken.mk · _) (List.append_nil first)

/-- What is displayed of a text depends on its lines alone, however it is taken apart. -/
theorem flattenChars_chars {b : Broken} (h : ∀ line ∈ b.lines, Unbroken line) :
    flattenChars b.chars = displayed b.lines := by
  obtain ⟨rest, hread, hfused⟩ := b.exists_fused h
  have hlines : lines b.chars = b.first :: rest.map (·.2) := by
    rw [← Broken.lines_read, hread, Broken.lines_mk]
  change [' '].intercalate ((trimmed (lines b.chars)).filter (· ≠ [])) = _
  rw [displayed_eq_intercalate, hlines, Broken.lines, trimmed_cons, trimmed_cons,
    hfused.filter_trimBeforeBreak]

/-- What is displayed of a text is what is displayed of the lines of its reading. -/
theorem toList_flatten (text : String) :
    (flatten text).toList = displayed (Broken.read text.toList).lines := by
  have h := Broken.isReadingOf_read text.toList
  rw [flatten, String.toList_ofList, ← flattenChars_chars h.unbroken, h.chars_eq]

/-- Text is displayed line by line: it has exactly one reading, and what is displayed of each line
goes by its number among the lines of the reading. -/
theorem flatten_eq_displayed (text : String) :
    ∃ b : Broken, (∀ other : Broken, other.IsReadingOf text.toList ↔ other = b) ∧
      flatten text = String.ofList (displayed b.lines) :=
  ⟨Broken.read text.toList, fun _ => Broken.isReadingOf_iff, by
    rw [← String.toList_inj, toList_flatten, String.toList_ofList]⟩

end JsxVNode.Text
