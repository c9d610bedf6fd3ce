import Facade.Text.Regex

/-!
# Globs

In a pattern a star stands for any run of characters and a question mark for one character, line
feeds excepted; every other character stands for itself. A pattern is escaped as a text, and then the
escaped wildcards are replaced by the expressions that they stand for.

* `replacePair`: replaces each occurrence of two characters in a row.
* `regexText`: the text of the regular expression of a pattern.
* `matchesAny`: a name against a list of patterns; a pattern equal to the name matches it.
-/

namespace Facade.Text.Glob

/-- Replaces each occurrence of two characters in a row, from the left. -/
def replacePair (a b : Char) (new : List Char) : List Char → List Char
  | c :: d :: s =>
    if c = a ∧ d = b then new ++ replacePair a b new s else c :: replacePair a b new (d :: s)
  | s => s

/-- The text of the regular expression of a pattern. -/
def regexText (pattern : List Char) : List Char :=
  replacePair '\\' '*' ['.', '*'] (replacePair '\\' '?' ['.'] (escape pattern))

/-- Whether a pattern matches a whole text as a glob. -/
def globMatches (pattern s : List Char) : Bool :=
  (Regex.read? (regexText pattern)).any fun r => r.fullMatches s

/-- Whether a name equals one of the patterns or matches one as a glob. -/
def matchesAny (name : String) (patterns : List String) : Bool :=
  patterns.any fun p => name == p || globMatches p.toList name.toList

end Facade.Text.Glob
