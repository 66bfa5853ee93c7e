/-!
# Lines and columns

The line and column of a byte position in a source text. A line ends after a line
feed, a carriage return with a line feed, or a carriage return alone, and a new one
begins there only if more text follows. Positions past the end belong to the last
line.

Columns count units of sixteen bits, so a character outside the basic plane is two
columns wide. They are found from bytes: those since the start of the line, less the
surplus of every character that begins before the position. A byte past the end of
the text is therefore one column, and a position inside a character is taken back by
all of the surplus of that character.
-/

namespace JsxVNode

/-- A place in a source text as a reader counts it. Both numbers start at one, but a text without
characters has no lines, and its places are on line zero. -/
structure Location where
  line : Nat
  column : Nat
  deriving DecidableEq, Repr, Inhabited

namespace Location

/-- The number of columns a character takes. -/
def width (c : Char) : Nat := if c.toNat < 0x10000 then 1 else 2

/-- The bytes of a character beyond its columns. -/
def surplus (c : Char) : Nat := c.utf8Size - width c

/-- Whether a line begins between a character and the one that follows it. -/
def breaksLine (c : Char) : Option Char → Bool
  | none => false
  | some following => c == '\n' || (c == '\r' && following != '\n')

/-- The lines of a text, each with the break that ends it. -/
def lines : List Char → List (List Char)
  | [] => []
  | c :: rest =>
    if breaksLine c rest.head? then [c] :: lines rest
    else
      match lines rest with
      | [] => [[c]]
      | line :: more => (c :: line) :: more

/-- The number of bytes of a text. -/
def byteSize : List Char → Nat
  | [] => 0
  | c :: rest => c.utf8Size + byteSize rest

/-- The surplus of the characters that begin before `bytes` bytes have passed. -/
def surplusBefore : Nat → List Char → Nat
  | _, [] => 0
  | bytes, c :: rest =>
    if bytes = 0 then 0 else surplus c + surplusBefore (bytes - c.utf8Size) rest

/-- The column after some bytes of a line. -/
def columnAfter (bytes : Nat) (line : List Char) : Nat :=
  ((bytes : Int) - surplusBefore bytes line).natAbs + 1

/-- The place after some bytes of the lines that follow the line with a number. -/
def after (line bytes : Nat) : List (List Char) → Location
  | [] => ⟨line, columnAfter bytes []⟩
  | [last] => ⟨line + 1, columnAfter bytes last⟩
  | first :: more =>
    if bytes < byteSize first then ⟨line + 1, columnAfter bytes first⟩
    else after (line + 1) (bytes - byteSize first) more

/-- A text without the byte order mark at its start. -/
def withoutMark : List Char → List Char
  | '\uFEFF' :: rest => rest
  | text => text

/-- The place of a byte position in a text. The first byte has position one; a byte order mark at
the start does not count. -/
def ofPosition (source : String) (pos : Nat) : Location :=
  after 0 (pos - 1) (lines (withoutMark source.toList))

/-- No character is lost when a text is cut into lines. -/
theorem flatten_lines (text : List Char) : (lines text).flatten = text := by
  induction text with
  | nil => rfl
  | cons c rest ih =>
    rw [lines]
    split
    · simp [ih]
    · split <;> simp_all

end Location

end JsxVNode
