/-!
# Paths

A path of the rule language is a sequence of segments, each of which begins with a
slash, and a list of query constraints. The same syntax serves both sides of a
rule: as a source it is matched against a URL, as a destination it is filled in.

A segment holds literal text, a placeholder for a variable, or several such runs
behind one slash. Every run knows whether a slash precedes it, so a compound
segment is printed, matched and filled in by treating its runs one by one.

## Main definitions

* `Quantifier`, `Placeholder`, `Segment` — the parts of a path
* `Segment.isPrefixed`, `Segment.setPrefixed` — the slash before a segment
* `Segment.placeholders`, `Path.placeholders` — the variables in order
* `QueryTarget`, `Query` — a constraint on a query parameter
* `Path`, `Path.print` — the whole, and its syntax
-/

set_option autoImplicit false

namespace Reroute

/-- How often a placeholder may be filled in. -/
inductive Quantifier where
  /-- At most once. -/
  | optional
  /-- Once or more. -/
  | oneOrMore
  /-- Any number of times. -/
  | zeroOrMore
deriving DecidableEq, Repr

namespace Quantifier

/-- The sign of a quantifier in a rule. Regular expressions use the same signs. -/
def symbol : Quantifier → Char
  | optional => '?'
  | oneOrMore => '+'
  | zeroOrMore => '*'

/-- Whether a variable with the quantifier holds a list. -/
def isRepeating : Quantifier → Bool
  | optional => false
  | oneOrMore | zeroOrMore => true

end Quantifier

/-- The slash before a part of a path, where there is one. -/
def slash (prefixed : Bool) : String :=
  if prefixed then "/" else ""

/-- A place in a path that a variable fills. -/
structure Placeholder where
  /-- The variable. -/
  name : String
  /-- How often the placeholder may be filled. -/
  quantifier : Option Quantifier := none
  /-- The regular expression that the value matches, where one is declared. -/
  pattern : Option String := none
  /-- Whether a slash comes first. -/
  prefixed : Bool := true
deriving DecidableEq, Repr

namespace Placeholder

/-- What matches when no pattern is declared: anything but slashes. -/
def defaultPattern : String := "[^/]+"

/-- The pattern that the value matches. -/
def effectivePattern (p : Placeholder) : String :=
  p.pattern.getD defaultPattern

/-- Whether the variable holds a list. -/
def isRepeating (p : Placeholder) : Bool :=
  p.quantifier.any Quantifier.isRepeating

/-- The placeholder in the syntax of rules. -/
def print (p : Placeholder) : String :=
  slash p.prefixed ++ ":" ++ p.name ++
    (match p.pattern with
    | some pattern => "(" ++ pattern ++ ")"
    | none => "") ++
    (match p.quantifier with
    | some quantifier => quantifier.symbol.toString
    | none => "")

end Placeholder

/-- What stands behind one slash of a path. -/
inductive Segment where
  /-- Literal text. -/
  | text (text : String) (prefixed : Bool)
  /-- A variable. -/
  | placeholder (p : Placeholder)
  /-- Several runs of text and variables; the first carries the slash. -/
  | compound (runs : List Segment)
deriving Repr

namespace Segment

instance : Inhabited Segment := ⟨.text "" true⟩

mutual

/-- Decide whether two segments are equal. -/
def decEq : (s t : Segment) → Decidable (s = t)
  | text x a, text y b => decidable_of_iff (x = y ∧ a = b) (by simp)
  | placeholder p, placeholder q => decidable_of_iff (p = q) (by simp)
  | compound ss, compound ts =>
    match decEqList ss ts with
    | isTrue h => isTrue (by simp [h])
    | isFalse h => isFalse (by simp [h])
  | text _ _, placeholder _ | text _ _, compound _ | placeholder _, text _ _
  | placeholder _, compound _ | compound _, text _ _ | compound _, placeholder _ =>
    isFalse (by simp)

/-- Decide whether two lists of segments are equal. -/
def decEqList : (ss ts : List Segment) → Decidable (ss = ts)
  | [], [] => isTrue rfl
  | [], _ :: _ | _ :: _, [] => isFalse (by simp)
  | s :: ss, t :: ts =>
    match decEq s t, decEqList ss ts with
    | isTrue h, isTrue hs => isTrue (by simp [h, hs])
    | isFalse h, _ => isFalse (by simp [h])
    | _, isFalse hs => isFalse (by simp [hs])

end

instance : DecidableEq Segment := decEq

mutual

/-- Whether the segment begins with a slash of its own. -/
def isPrefixed : Segment → Bool
  | text _ prefixed => prefixed
  | placeholder p => p.prefixed
  | compound runs => firstIsPrefixed runs

/-- Whether the first of some runs begins with a slash. -/
def firstIsPrefixed : List Segment → Bool
  | [] => false
  | run :: _ => run.isPrefixed

end

mutual

/-- The segment with or without a slash in front. -/
def setPrefixed (prefixed : Bool) : Segment → Segment
  | text s _ => text s prefixed
  | placeholder p => placeholder { p with prefixed := prefixed }
  | compound runs => compound (setFirstPrefixed prefixed runs)

/-- Runs of which the first begins with a slash or not. -/
def setFirstPrefixed (prefixed : Bool) : List Segment → List Segment
  | [] => []
  | run :: runs => run.setPrefixed prefixed :: runs

end

mutual

/-- The placeholders of a segment, in order. -/
def placeholders : Segment → List Placeholder
  | text _ _ => []
  | placeholder p => [p]
  | compound runs => placeholdersOf runs

/-- The placeholders of some segments, in order. -/
def placeholdersOf : List Segment → List Placeholder
  | [] => []
  | run :: runs => run.placeholders ++ placeholdersOf runs

end

mutual

/-- The segment in the syntax of rules. -/
def print : Segment → String
  | text s prefixed => slash prefixed ++ s
  | placeholder p => p.print
  | compound runs => printAll runs

/-- Segments one after the other. -/
def printAll : List Segment → String
  | [] => ""
  | run :: runs => run.print ++ printAll runs

end

/-- The segment made of the runs behind one slash. Of several, only the first
keeps its slash. -/
def ofRuns : List Segment → Segment
  | [] => text "" true
  | [run] => run
  | run :: runs => compound (run :: runs.map (setPrefixed false))

end Segment

/-- What a query parameter is compared with, or which variable takes its value. -/
inductive QueryTarget where
  /-- The parameter has exactly this value. -/
  | literal (value : String)
  /-- The value of the parameter goes to the variable `name`. -/
  | var (name : String)
deriving DecidableEq, Repr

/-- A constraint on a query parameter. -/
structure Query where
  /-- The parameter. -/
  name : String
  /-- What the parameter is compared with or bound to. -/
  target : QueryTarget
  /-- The regular expression that the value matches, where one is declared. -/
  pattern : Option String := none
deriving DecidableEq, Repr

namespace Query

/-- What matches when no pattern is declared: anything but ampersands. -/
def defaultPattern : String := "[^&]+"

/-- The pattern that the value matches. -/
def effectivePattern (q : Query) : String :=
  q.pattern.getD defaultPattern

/-- The constraint in the syntax of rules. A literal has no pattern. -/
def print (q : Query) : String :=
  "??" ++ q.name ++ "=" ++
    match q.target with
    | .literal value => value
    | .var name =>
      ":" ++ name ++
        match q.pattern with
        | some pattern => "(" ++ pattern ++ ")"
        | none => ""

end Query

/-- A path with its query constraints. -/
structure Path where
  segments : List Segment
  queries : List Query
deriving DecidableEq, Repr

namespace Path

instance : Inhabited Path := ⟨⟨[], []⟩⟩

/-- The placeholders of the path, in order. -/
def placeholders (p : Path) : List Placeholder :=
  Segment.placeholdersOf p.segments

/-- Queries, each behind a blank. -/
def printQueries : List Query → String
  | [] => ""
  | q :: qs => " " ++ q.print ++ printQueries qs

/-- The path in the syntax of rules. -/
def print (p : Path) : String :=
  Segment.printAll p.segments ++ printQueries p.queries

instance : ToString Path := ⟨print⟩

end Path

end Reroute
