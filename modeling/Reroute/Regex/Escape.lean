/-!
# Escaping

Most punctuation has a meaning in regular expressions. A backslash takes it away.

## Main definitions

* `escape` — the regular expression that matches a given text
-/

set_option autoImplicit false

namespace Reroute.Regex

/-- The characters that mean something other than themselves somewhere. -/
def metaChars : List Char :=
  ['\\', '.', '+', '*', '?', '(', ')', '|', '[', ']', '\x7b', '\x7d', '^', '$', '#', '&', '-', '~']

/-- Whether a character needs a backslash to stand for itself. -/
def isMeta (x : Char) : Bool :=
  metaChars.contains x

/-- The regular expression that matches `text` and nothing else. -/
def escape (text : String) : String :=
  String.ofList (text.toList.flatMap fun x => if isMeta x then ['\\', x] else [x])

/-- Whether a backslash before the character takes away its meaning, if any. -/
def isEscapable (x : Char) : Bool :=
  isMeta x || (x.toNat < 0x80 && !x.isAlphanum && x != '<' && x != '>')

end Reroute.Regex
