import Facade.Failure
import Facade.Syntax.Reader
import Facade.Syntax.Printer
import Facade.Text.Lines

/-!
# Source that holds its own text

A class body can carry the text of the module it stands in. While the text is being written, a
placeholder stands for it.

* `placeholder`: the statement that keeps the place.
* `embed`: puts the text, less the lines of the placeholder, in the place of the placeholder.
* `prettify`: the canonical form of a source.
-/

namespace Facade.Source

/-- The attribute that holds the text of the module. -/
def sourceAttribute : String := "__source__"

/-- The text that stands for the text of the module. -/
def sourceMarker : String := "__typeforge_source__"

/-- The statement that keeps the place. -/
def placeholder (name : String) : String := name ++ " = " ++ Text.quote sourceMarker

/-- The first occurrence of a piece of text replaced by another. -/
def replaceFirst (old new : List Char) : List Char → List Char
  | [] => if old.isEmpty then new else []
  | c :: r =>
    if old.isPrefixOf (c :: r) then new ++ (c :: r).drop old.length
    else c :: replaceFirst old new r

theorem replaceFirst_append (old new r : List Char) :
    replaceFirst old new (old ++ r) = new ++ r := by
  cases h : old ++ r with
  | nil =>
    rw [List.append_eq_nil_iff] at h
    simp [replaceFirst, h.1, h.2]
  | cons c s =>
    have hp : old.isPrefixOf (c :: s) = true := by
      rw [List.isPrefixOf_iff_prefix, ← h]
      exact List.prefix_append old r
    rw [replaceFirst, if_pos hp, ← h, List.drop_left]

/-- How often a piece of text occurs in another. -/
def occurrences (piece : List Char) : List Char → Nat
  | [] => 0
  | c :: r => (if piece.isPrefixOf (c :: r) then 1 else 0) + occurrences piece r

/-- A text less the lines that consist of the placeholder. -/
def withoutPlaceholder (source name : String) : String :=
  let marker := (placeholder name).toList
  String.ofList
    ((Text.splitLinesKeep source.toList).filter fun l => Text.strip l != marker).flatten

/-- Puts the text itself in the place of the placeholder. -/
def embed (source name : String) : String :=
  let content := name ++ " = " ++ Text.quote (withoutPlaceholder source name)
  String.ofList
    (replaceFirst (placeholder name).toList content.toList source.toList)

/-- The canonical form of a source, for which comments do not count; what cannot be read stays as it
is. A source with a null character is a fault. -/
def prettify (source : String) : Except Fault String :=
  if source.toList.contains '\x00' then .error .value
  else
    match Syntax.readModule source with
    | .ok body => .ok (Syntax.render .canonical body)
    | .error _ => .ok source

end Facade.Source
