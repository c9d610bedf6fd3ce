/-!
# Paths

Paths are texts in a clean form: no empty and no self-referring parts, except that the path without
parts is a single dot.

* `clean`: the clean form of a path.
* `join`: a path below another; an absolute one stands on its own.
* `lastPart`, `stem`, `parent`, `ancestors`, `relativeTo`: parts of a path.
-/

namespace Facade.Path

/-- The slashes at the front of an absolute path: two are kept, any other number becomes one. -/
def rootOf (s : String) : String :=
  match (s.toList.takeWhile (· == '/')).length with
  | 0 => ""
  | 2 => "//"
  | _ => "/"

/-- The parts of a path that lead anywhere. -/
def partsOf (s : String) : List String :=
  (s.splitOn "/").filter fun p => p != "" && p != "."

/-- The path with a root and parts. -/
def ofParts (root : String) (parts : List String) : String :=
  if root.isEmpty && parts.isEmpty then "." else root ++ "/".intercalate parts

/-- The clean form of a path. -/
def clean (s : String) : String := ofParts (rootOf s) (partsOf s)

/-- Whether a path is absolute. It begins at the root, or with a name in angle brackets, which stands
for a directory of which it does not matter where it lies. -/
def isAbsolute (s : String) : Bool := s.startsWith "/" || s.startsWith "<"

/-- A path below another. -/
def join (a b : String) : String :=
  if isAbsolute b then clean b else ofParts (rootOf a) (partsOf a ++ partsOf b)

/-- The last part of a path. -/
def lastPart (s : String) : String := ((partsOf s).getLast?).getD ""

/-- The last part without its ending; a dot at its front or end opens no ending. -/
def stem (s : String) : String :=
  let cs := (lastPart s).toList
  let ending := (cs.reverse.takeWhile (· != '.')).length
  let front := cs.take (cs.length - ending - 1)
  if !cs.contains '.' || ending == 0 || front.isEmpty then String.ofList cs else String.ofList front

/-- The path that a path lies in. -/
def parent (s : String) : String :=
  match partsOf s with
  | [] => clean s
  | ps => ofParts (rootOf s) ps.dropLast

/-- The absolute path that results when parts that lead upwards are followed. -/
def resolve (s : String) : String :=
  let parts := (partsOf s).foldl (fun acc p => if p == ".." then acc.dropLast else acc ++ [p]) []
  ofParts (rootOf s) parts

/-- A path and all the paths it lies in, nearest first. -/
def ancestors (s : String) : List String :=
  let ps := partsOf s
  (List.range (ps.length + 1)).map fun k => ofParts (rootOf s) (ps.take (ps.length - k))

/-- Whether a path lies in, or is, another. -/
def isBelow (s dir : String) : Bool := (ancestors s).contains dir

/-- A path as seen from one that it lies in. -/
def relativeTo (dir s : String) : String := ofParts "" ((partsOf s).drop (partsOf dir).length)

end Facade.Path
