import Facade.Failure
import Facade.Syntax.Printer
import Facade.Text.Lines

/-!
# Writing source line by line

* `Step`: what can be written: lines, blocks with a header, foreign fragments.
* `Step.write`: the lines of a step at a depth of blocks, and the exception it ends with, if any.
* `textOf`: the text of the lines.
* `fragmentLines`: a foreign fragment between two comments that tell where it begins and ends.
-/

namespace Facade.Source

/-- Something to be written. -/
inductive Step where
  /-- A line; an empty one is not indented. -/
  | line (text : String)
  /-- Several lines. -/
  | lines (texts : List String)
  /-- A foreign fragment with its label. -/
  | fragment (code label : String)
  /-- A header and what stands under it, one level deeper. -/
  | block (header : String) (body : List Step)
  /-- An exception that ends all blocks that are open. -/
  | raise (text : String)
  deriving Repr, Inhabited

/-- Whether a line holds nothing but blanks. -/
def isBlankLine (s : String) : Bool := (Text.strip s.toList).isEmpty

/-- The lines of a foreign fragment, without the margin that they share, without line feeds at both
ends and without blanks at the end of any, between two comments. -/
def fragmentLines (code label : String) : List String :=
  let body := Text.splitLines (Text.stripBy (· == '\n') (Text.dedent code.toList))
  ["# " ++ label ++ " begins"] ++ body.map (fun l => String.ofList (Text.stripEnd l)) ++
    ["# " ++ label ++ " ends"]

/-- What stands under a header: a block of blank lines needs a statement that does nothing. -/
def closeBlock (level : Nat) (body : List String) : List String :=
  if body.all isBlankLine then body ++ [Syntax.lineAt level "pass"] else body

mutual

/-- The lines of a step, and the exception it ends with. -/
def Step.write (level : Nat) : Step → List String × Option Scripted
  | .line text => ([Syntax.lineAt level text], none)
  | .lines texts => (texts.map (Syntax.lineAt level), none)
  | .fragment code label => ((fragmentLines code label).map (Syntax.lineAt level), none)
  | .block header body =>
    let (lines, failure) := writeAll (level + 1) body
    (Syntax.lineAt level header :: closeBlock (level + 1) lines, failure)
  | .raise text => ([], some ⟨"RuntimeError", text⟩)

/-- The lines of steps up to the first that ends with an exception. -/
def writeAll (level : Nat) : List Step → List String × Option Scripted
  | [] => ([], none)
  | s :: r =>
    match s.write level with
    | (lines, some e) => (lines, some e)
    | (lines, none) =>
      let (more, failure) := writeAll level r
      (lines ++ more, failure)

end

/-- The text of lines. -/
def textOf (lines : List String) : String := "\n".intercalate lines ++ "\n"

/-- Writes steps one after the other: the exception of each, and the text after it. -/
def writeEach (steps : List Step) : List (Option Scripted × String) :=
  (steps.foldl (fun (acc : List String × List (Option Scripted × String)) s =>
    let (lines, failure) := s.write 0
    let all := acc.1 ++ lines
    (all, acc.2 ++ [(failure, textOf all)])) ([], [])).2

theorem closeBlock_ne_nil (level : Nat) (body : List String) : closeBlock level body ≠ [] := by
  unfold closeBlock
  split
  · simp
  · intro h; simp [h] at *

end Facade.Source
