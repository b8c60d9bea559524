import Reroute.Parsing.Cursor
import Reroute.Parsing.Error

/-!
# Parsers

A parser maps a cursor to a step: a value with the cursor behind what it read, or
an error with the offset at which the parser gave up. That offset is information
for the caller; it may differ from the position of the error, and whoever tries
something else starts again from the cursor it had.

Parsers form a monad. A sequence stops at the first failure and hands it on
unchanged, while `Parser.map` makes one unit of a parser: it fails where it began.

## Main definitions

* `Step`, `Parser` — the outcome of reading, and what reads
* `Parser.parse`, `Parser.parseFull`, `Parser.parseWithRemainder` — run a parser
  on a text: from an offset, on all of it, or on its beginning
* `Parser.atomic`, `Parser.skip`, `Parser.between` — parsers made of others
* `Parser.fix` — a parser that refers to itself further on in the text
-/

set_option autoImplicit false

namespace Reroute.Parsing

variable {α β γ : Type}

/-- The outcome of applying a parser at a cursor. -/
inductive Step (α : Type) where
  /-- A value was read, and the text goes on at `next`. -/
  | success (value : α) (next : Cursor)
  /-- Nothing was read; the parser gave up at the offset `stop`. -/
  | failure (stop : Nat) (error : ParseError)
deriving DecidableEq, Repr

namespace Step

/-- The offset at which the parser stopped, whether it succeeded or not. -/
def stop : Step α → Nat
  | success _ next => next.offset
  | failure stop _ => stop

/-- The value of a success. -/
def value? : Step α → Option α
  | success value _ => some value
  | failure _ _ => none

end Step

/-- A parser: what it does depends on the cursor only. -/
@[ext]
structure Parser (α : Type) where
  run : Cursor → Step α

instance : Inhabited (Parser α) := ⟨⟨fun c => .failure c.offset ⟨.noChoice, c.offset⟩⟩⟩

/-- A parser is a function, and is shown as one. -/
instance : ToString (Parser α) := ⟨fun _ => "Parser \x7b run: \"<function>\" \x7d"⟩

namespace Parser

/-- Fail at the cursor for the given cause. -/
def fail (cause : ParseError.Cause) : Parser α :=
  ⟨fun c => .failure c.offset ⟨cause, c.offset⟩⟩

/-- Read nothing. -/
def succeed (value : α) : Parser α :=
  ⟨fun c => .success value c⟩

/-- Let the value that `p` read choose the parser for what follows. -/
def chain (p : Parser α) (f : α → Parser β) : Parser β :=
  ⟨fun c =>
    match p.run c with
    | .success value next => (f value).run next
    | .failure stop error => .failure stop error⟩

instance : Monad Parser where
  pure := succeed
  bind := chain

/-- Transform the value that `p` reads. A failure keeps its error but reports the
cursor at which `p` was started. -/
def map (f : α → β) (p : Parser α) : Parser β :=
  ⟨fun c =>
    match p.run c with
    | .success value next => .success (f value) next
    | .failure _ error => .failure c.offset error⟩

/-- Make one unit of a parser: it fails where it began. -/
def atomic (p : Parser α) : Parser α :=
  p.map id

/-- Read what `p` reads and drop the value. A failure is handed on unchanged. -/
def skip (p : Parser α) : Parser Unit :=
  p.chain fun _ => succeed ()

/-- What `p` reads between `opening` and `closing`, as one unit. -/
def between (opening : Parser α) (p : Parser β) (closing : Parser γ) : Parser β :=
  atomic do
    let _ ← opening
    let value ← p
    let _ ← closing
    return value

/-- A parser that is built when it is used. -/
def delay (build : Unit → Parser α) : Parser α :=
  ⟨fun c => (build ()).run c⟩

/-- A parser that may refer to itself, as long as it does so further on in the
text: a use at a place where no less of it is left fails. -/
def fix (f : Parser α → Parser α) : Parser α :=
  ⟨go⟩
where
  go (c : Cursor) : Step α :=
    (f ⟨fun d =>
      if d.left < c.left then go d
      else .failure d.offset ⟨.noChoice, d.offset⟩⟩).run c
  termination_by c.left

/-- Apply a parser to `text` from a byte offset. -/
def parse (p : Parser α) (text : String) (offset : Nat) : Step α :=
  p.run (Cursor.ofOffset text offset)

/-- Read all of `text`. Text that is left over is an error where it begins. -/
def parseFull (p : Parser α) (text : String) : Except ParseError α :=
  match p.run (Cursor.start text) with
  | .success value next =>
    if next.rest = [] then .ok value else .error ⟨.leftover, next.offset⟩
  | .failure _ error => .error error

/-- Read the beginning of `text`; the rest of it is returned with the value. -/
def parseWithRemainder (p : Parser α) (text : String) : Except ParseError (α × String) :=
  match p.run (Cursor.start text) with
  | .success value next => .ok (value, String.ofList next.rest)
  | .failure _ error => .error error

@[simp] theorem run_pure (value : α) (c : Cursor) :
    (pure value : Parser α).run c = .success value c := rfl

theorem run_bind (p : Parser α) (f : α → Parser β) (c : Cursor) :
    (p >>= f).run c =
      match p.run c with
      | .success value next => (f value).run next
      | .failure stop error => .failure stop error := rfl

/-- Reading nothing before or after changes nothing, and sequences associate. -/
instance : LawfulMonad Parser :=
  .mk' _
    (fun p => by
      ext c : 2
      change (p >>= pure ∘ id).run c = p.run c
      rw [run_bind]
      cases p.run c <;> rfl)
    (fun _ _ => rfl)
    (fun p f g => by
      ext c : 2
      simp only [run_bind]
      cases p.run c <;> rfl)

theorem run_map (f : α → β) (p : Parser α) (c : Cursor) :
    (p.map f).run c =
      match p.run c with
      | .success value next => .success (f value) next
      | .failure _ error => .failure c.offset error := rfl

/-- One unfolding of a parser that refers to itself. -/
theorem run_fix (f : Parser α → Parser α) (c : Cursor) :
    (fix f).run c =
      (f ⟨fun d =>
        if d.left < c.left then (fix f).run d
        else .failure d.offset ⟨.noChoice, d.offset⟩⟩).run c := by
  change fix.go f c = _
  rw [fix.go]
  rfl

end Parser

end Reroute.Parsing
