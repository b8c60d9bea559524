import Reroute.Parsing.Parser

/-!
# Parsers for characters

`satisfy` reads one character; every class of characters is `satisfy` with a
test and the words for what was expected.
-/

set_option autoImplicit false

namespace Reroute.Parsing

/-- Read one character that passes `test`, which also sees the character before
it. `expected` says in words what was wanted. -/
def satisfy (test : Char → Option Char → Bool) (expected : Option String) : Parser Char :=
  ⟨fun c =>
    match c.next? with
    | none => .failure c.offset ⟨.unexpectedEnd, c.offset⟩
    | some (x, next) =>
      if test x c.previous then .success x next
      else .failure c.offset ⟨.unexpectedChar x expected, c.offset⟩⟩

/-- Any character. -/
def anyChar : Parser Char :=
  satisfy (fun _ _ => true) none

/-- A blank. -/
def space : Parser Char :=
  satisfy (fun x _ => x = ' ') (some "space")

/-- The end of a line. -/
def newline : Parser Char :=
  satisfy (fun x _ => x = '\n') (some "new line")

/-- A tabulator. -/
def tab : Parser Char :=
  satisfy (fun x _ => x = '\t') (some "tab")

/-- White space is the blank, the tabulator and the end of a line. -/
def isWhitespace (x : Char) : Bool :=
  x = ' ' || x = '\t' || x = '\n'

/-- One character of white space. -/
def whitespace : Parser Char :=
  satisfy (fun x _ => isWhitespace x) (some "whitespace")

/-- Exactly the character `expected`. -/
def char (expected : Char) : Parser Char :=
  satisfy (fun x _ => x = expected) (some expected.toString)

/-- An ASCII digit. -/
def digit : Parser Char :=
  satisfy (fun x _ => x.isDigit) (some "any digit")

/-- An ASCII letter. -/
def letter : Parser Char :=
  satisfy (fun x _ => x.isAlpha) (some "any letter")

/-- An ASCII uppercase letter. -/
def upper : Parser Char :=
  satisfy (fun x _ => x.isUpper) (some "any uppercase letter")

/-- An ASCII lowercase letter. -/
def lower : Parser Char :=
  satisfy (fun x _ => x.isLower) (some "any lowercase letter")

/-- An ASCII letter or digit. -/
def alphaNum : Parser Char :=
  satisfy (fun x _ => x.isAlphanum) (some "any alphanumeric character")

/-- A character that occurs in `chars`. -/
def oneOf (chars : String) : Parser Char :=
  satisfy (fun x _ => x ∈ chars.toList) (some ("one of " ++ chars))

/-- A character that does not occur in `chars`. -/
def noneOf (chars : String) : Parser Char :=
  satisfy (fun x _ => x ∉ chars.toList) (some ("none of " ++ chars))

end Reroute.Parsing
