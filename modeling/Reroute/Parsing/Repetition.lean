import Reroute.Parsing.Parser

/-!
# Repetition

A repetition goes on only while less and less is left of the text, so it ends even
when its item can succeed without reading anything.

## Main definitions

* `Parser.many`, `Parser.many1`, `Parser.skipMany` — repetition
* `Parser.separatedBy` — repetition with separators between the items
-/

set_option autoImplicit false

namespace Reroute.Parsing.Parser

variable {α β : Type}

/-- The values that `p` reads one after the other from `c`, and where that ends. -/
def manyFrom (p : Parser α) (c : Cursor) : List α × Cursor :=
  match p.run c with
  | .success value next =>
    -- A turn that reads nothing does not count, and is the last.
    if next.left < c.left then
      let (values, last) := manyFrom p next
      (value :: values, last)
    else
      ([], c)
  | .failure _ _ => ([], c)
termination_by c.left

/-- Repeat `p` until it fails or reads nothing. Never fails. -/
def many (p : Parser α) : Parser (List α) :=
  ⟨fun c =>
    let items := manyFrom p c
    .success items.1 items.2⟩

/-- Repeat `p`, at least once. When `p` fails where it began, all that is
reported is that a match was needed. -/
def many1 (p : Parser α) : Parser (List α) :=
  ⟨fun c =>
    match p.run c with
    | .success first next =>
      let more := manyFrom p next
      .success (first :: more.1) more.2
    | .failure stop error =>
      if stop = c.offset then .failure c.offset ⟨.expectedAtLeastOne, c.offset⟩
      else .failure stop error⟩

/-- Repeat `p` and drop the values. Never fails. -/
def skipMany (p : Parser α) : Parser Unit :=
  skip (many p)

/-- The items from `c` on, where `committed` is the end of the item before the
separator that led to `c`. -/
def separatedFrom (item : Parser α) (separator : Parser β) (committed c : Cursor) :
    List α × Cursor :=
  match item.run c with
  | .failure _ _ => ([], committed)
  | .success value after =>
    match separator.run after with
    | .failure _ _ => ([value], after)
    | .success _ next =>
      -- A separator that reads nothing would separate the same place from itself.
      if next.left < after.left ∧ next.left < c.left then
        let (values, last) := separatedFrom item separator after next
        (value :: values, last)
      else
        ([value], after)
termination_by c.left

/-- Items with separators between them, possibly none. A separator that no item
follows is not read. Never fails. -/
def separatedBy (item : Parser α) (separator : Parser β) : Parser (List α) :=
  ⟨fun c =>
    let items := separatedFrom item separator c c
    .success items.1 items.2⟩

end Reroute.Parsing.Parser
