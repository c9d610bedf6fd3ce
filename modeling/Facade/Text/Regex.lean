/-!
# Regular expressions without branches

An expression is a sequence of items, each of which accepts one character or a run of characters. It
is read from a text in which a point accepts every character but the line feed, a star repeats what
stands in front of it, and a backslash takes a mark for itself.

* `Atom`, `Item`, `Regex`: expressions.
* `Regex.read?`: reads a text as an expression; `operators` are the characters that do not stand for
  themselves in it.
* `Regex.fullMatches`: whether an expression matches a whole text.
* `escape`: the text of an expression that matches the given text alone.
-/

namespace Facade.Text

/-! ## Expressions -/

/-- What accepts one character. -/
inductive Atom where
  /-- Every character but the line feed. -/
  | any
  /-- One character. -/
  | char (c : Char)
  deriving DecidableEq, Repr, Inhabited

/-- Whether an atom accepts a character. -/
def Atom.accepts : Atom → Char → Bool
  | .any, c => c != '\n'
  | .char d, c => c == d

/-- What accepts one character or any number of them. -/
structure Item where
  /-- What accepts each character. -/
  atom : Atom
  /-- Any number of characters is accepted. -/
  repeats : Bool := false
  deriving DecidableEq, Repr, Inhabited

/-- A regular expression without branches. -/
abbrev Regex := List Item

namespace Regex

/-! ## Reading -/

/-- The characters that mean something else in an expression than themselves. -/
def operators : List Char := ['.', '\\', '[', '{', '(', ')', '*', '+', '?', '^', '$', '|']

/-- What has been read of an expression. -/
structure Reading where
  /-- The items, the last one first. -/
  items : List Item := []
  /-- A backslash has been read that takes the next character. -/
  escaped : Bool := false

/-- Adds an item that accepts one character. -/
def Reading.push (r : Reading) (a : Atom) : Reading := { items := { atom := a } :: r.items }

/-- Reads a character. Behind a backslash letters and digits have meanings that are not read, and a
star repeats nothing that repeats already. -/
def readChar (r : Reading) (c : Char) : Option Reading :=
  if r.escaped then if c.isAlphanum then none else some (r.push (.char c))
  else if c = '\\' then some { r with escaped := true }
  else if c = '.' then some (r.push .any)
  else if c = '*' then
    match r.items with
    | { atom, repeats := false } :: is => some { r with items := { atom, repeats := true } :: is }
    | _ => none
  else if operators.contains c then none
  else some (r.push (.char c))

/-- Reads a text as an expression. -/
def read? (cs : List Char) : Option Regex :=
  match cs.foldlM readChar {} with
  | some { items, escaped := false } => some items.reverse
  | _ => none

/-! ## Matching -/

/-- Whether a run of characters, followed by what `rest` accepts, makes up a text. -/
def runMatches (a : Atom) (rest : List Char → Bool) : List Char → Bool
  | [] => rest []
  | c :: s => rest (c :: s) || (a.accepts c && runMatches a rest s)

/-- Whether an expression matches a whole text. -/
def fullMatches : Regex → List Char → Bool
  | [], s => s.isEmpty
  | { atom, repeats := true } :: r, s => runMatches atom (fullMatches r) s
  | { atom, repeats := false } :: r, c :: s => atom.accepts c && fullMatches r s
  | { repeats := false, .. } :: _, [] => false

end Regex

/-! ## Escaping -/

/-- The characters that are escaped: operators, and marks and blanks that are some elsewhere. -/
def escapedChars : List Char :=
  ['(', ')', '[', ']', '{', '}', '?', '*', '+', '-', '|', '^', '$', '\\', '.', '&', '~', '#', ' ',
    '\t', '\n', '\r', '\x0b', '\x0c']

/-- A character as it stands for itself in an expression. -/
def escapeRegexChar (c : Char) : List Char := if escapedChars.contains c then ['\\', c] else [c]

/-- The text of an expression that matches the given text alone. -/
def escape (cs : List Char) : List Char := cs.flatMap escapeRegexChar

end Facade.Text
