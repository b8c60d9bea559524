import Reroute.Value

/-!
# Events

What happens while rules are compiled and applied is recorded as a list of events,
oldest first.

## Main definitions

* `Event`, `Event.print` — an event and the line that reports it
* `Recorded` — a result with the events on the way to it
-/

set_option autoImplicit false

namespace Reroute

/-- Something worth recording. -/
inductive Event where
  /-- The source of a rule became a regular expression. -/
  | compiled (path regex : String)
  /-- A URL did not match a rule. -/
  | rejected (url rule : String)
  /-- A URL was led somewhere else. -/
  | rerouted (url target : String)
  /-- A variable was assigned a value. -/
  | assigned (variableName : String) (value : Value)
  /-- A function was called. -/
  | called (function : String) (arity : Nat)
deriving DecidableEq, Repr

/-- The line that reports an event, behind its level. -/
def Event.print : Event → String
  | compiled path regex => "DEBUG compiled path '" ++ path ++ "' to /" ++ regex ++ "/"
  | rejected url rule => "DEBUG rejected " ++ url ++ " for rule '" ++ rule ++ "'"
  | rerouted url target => "DEBUG rewrote " ++ url ++ " to " ++ target
  | assigned x value => "TRACE assign :" ++ x ++ " <- " ++ value.print
  | called function arity => "TRACE call " ++ function ++ "(" ++ toString arity ++ " args)"

/-- A result, and the events on the way to it. -/
structure Recorded (α : Type) where
  result : α
  events : List Event := []
deriving Repr

namespace Recorded

instance : Monad Recorded where
  pure result := { result }
  bind r f := { result := (f r.result).result, events := r.events ++ (f r.result).events }

/-- Events are put together in order. -/
instance : LawfulMonad Recorded :=
  .mk' _
    (fun r => by
      change ({ result := r.result, events := r.events ++ [] } : Recorded _) = r
      rw [List.append_nil])
    (fun _ _ => rfl)
    (fun r f g => by simp [bind])

/-- Record an event. -/
def record (event : Event) : Recorded Unit :=
  { result := (), events := [event] }

end Recorded

end Reroute
