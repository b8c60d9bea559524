/-!
# Cursors

A cursor is a place in a text: the characters still to be read, the character
just before them, and how many bytes of UTF-8 lie behind. A parser sees the text
through a cursor only, so it can look one character back and never further. From
within a character nothing is seen, but the text goes on: the cursor knows how many
bytes it has left in any case.

## Main definitions

* `Cursor` — a place in a text
* `Cursor.ofOffset` — the place at a byte offset; an offset that is no character
  boundary of the text gives a cursor with nothing to read
* `Cursor.next?` — the character at a cursor and the place behind it
* `Cursor.left` — the number of bytes from a place to the end of the text
-/

set_option autoImplicit false

namespace Reroute.Parsing

/-- A place in a text. -/
structure Cursor where
  /-- The character just before the place; `none` at the start of the text. -/
  previous : Option Char
  /-- The characters from the place to the end of the text. -/
  rest : List Char
  /-- The number of bytes before the place. -/
  offset : Nat
  /-- The number of bytes from the place to the end of the text that cannot be read, as the
  place is within a character. -/
  unseen : Nat
deriving DecidableEq, Repr

namespace Cursor

/-- The place before the first character of `text`. -/
def start (text : String) : Cursor :=
  ⟨none, text.toList, 0, 0⟩

/-- The character at the cursor, and the place just behind it. -/
def next? (c : Cursor) : Option (Char × Cursor) :=
  match c.rest with
  | [] => none
  | x :: rest => some (x, ⟨some x, rest, c.offset + x.utf8Size, c.unseen⟩)

/-- The number of bytes from the cursor to the end of the text. -/
def left (c : Cursor) : Nat :=
  (String.ofList c.rest).utf8ByteSize + c.unseen

/-- Walk `bytes` bytes into `rest`, which has `previous` before it and starts at
`offset`. There is no such place when the walk would end inside a character or
beyond the last one. -/
def walk (previous : Option Char) (offset : Nat) : List Char → Nat → Option Cursor
  | rest, 0 => some ⟨previous, rest, offset, 0⟩
  | [], _ + 1 => none
  | x :: rest, bytes + 1 =>
    if x.utf8Size ≤ bytes + 1 then
      walk (some x) (offset + x.utf8Size) rest (bytes + 1 - x.utf8Size)
    else
      none

/-- The place at a byte offset of `text`. At an offset that is not the boundary
of a character there is nothing to read. -/
def ofOffset (text : String) (offset : Nat) : Cursor :=
  (walk none 0 text.toList offset).getD ⟨none, [], offset, text.utf8ByteSize - offset⟩

section

variable (previous : Option Char) (x : Char) (rest : List Char) (offset unseen : Nat)

@[simp] theorem next?_nil : (⟨previous, [], offset, unseen⟩ : Cursor).next? = none := rfl

@[simp] theorem next?_cons :
    (⟨previous, x :: rest, offset, unseen⟩ : Cursor).next? =
      some (x, ⟨some x, rest, offset + x.utf8Size, unseen⟩) := rfl

@[simp] theorem walk_zero :
    walk previous offset rest 0 = some ⟨previous, rest, offset, 0⟩ := by
  cases rest <;> rfl

end

@[simp] theorem ofOffset_zero (text : String) : ofOffset text 0 = start text := by
  simp [ofOffset, start]

end Cursor

end Reroute.Parsing
