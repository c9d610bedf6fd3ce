import Facade.Text.CharClass

/-!
# Lines

* `splitLinesKeep`: the lines of a text with their ends; joined again they give the text back.
* `splitLines`: the lines without their ends.
* `strip`, `stripEnd`: the text without blanks at both ends, or at its end.
* `dedent`: the text without the margin that all its lines share.
-/

namespace Facade.Text

/-! ## Line ends -/

/-- A character that ends a line. -/
def isLineEnd (c : Char) : Bool :=
  inRanges [(0xa, 0xd), (0x1c, 0x1e), (0x85, 0x85), (0x2028, 0x2029)] c.toNat

/-- Puts a character in front of the first line. -/
def pushFront (c : Char) : List (List Char) → List (List Char)
  | [] => [[c]]
  | l :: r => (c :: l) :: r

/-- The lines of a text with their ends. A carriage return and the line feed after it are one
end. -/
def splitLinesKeep : List Char → List (List Char)
  | [] => []
  | '\r' :: '\n' :: r => ['\r', '\n'] :: splitLinesKeep r
  | c :: r => if isLineEnd c then [c] :: splitLinesKeep r else pushFront c (splitLinesKeep r)

theorem flatten_pushFront (c : Char) (ls : List (List Char)) :
    (pushFront c ls).flatten = c :: ls.flatten := by
  cases ls <;> simp [pushFront]

/-- **Nothing is lost.** The lines with their ends make up the text. -/
theorem flatten_splitLinesKeep (cs : List Char) : (splitLinesKeep cs).flatten = cs := by
  fun_induction splitLinesKeep cs with
  | case1 => rfl
  | case2 r ih => simp [ih]
  | case3 c r _ hc ih => simp [ih]
  | case4 c r _ hc ih => simp [flatten_pushFront, ih]

/-- The lines of a text without their ends. -/
def splitLines (cs : List Char) : List (List Char) :=
  (splitLinesKeep cs).map fun l => l.takeWhile fun c => !isLineEnd c

/-! ## Blanks at the ends -/

/-- The text without the characters of a class at its end. -/
def stripEndBy (p : Char → Bool) (cs : List Char) : List Char :=
  (cs.reverse.dropWhile p).reverse

/-- The text without the characters of a class at both ends. -/
def stripBy (p : Char → Bool) (cs : List Char) : List Char :=
  stripEndBy p (cs.dropWhile p)

/-- The text without blanks at its end. -/
def stripEnd (cs : List Char) : List Char := stripEndBy isBlank cs

/-- The text without blanks at both ends. -/
def strip (cs : List Char) : List Char := stripBy isBlank cs

/-! ## Margins -/

/-- A character that a margin consists of. -/
def isMargin (c : Char) : Bool := c == ' ' || c == '\t'

/-- The margin of a line. -/
def marginOf (l : List Char) : List Char := l.takeWhile isMargin

/-- What two margins share at their front. -/
def commonFront : List Char → List Char → List Char
  | a :: r, b :: s => if a == b then a :: commonFront r s else []
  | _, _ => []

/-- The pieces of a text between its line feeds. -/
def splitFeeds : List Char → List (List Char)
  | [] => [[]]
  | c :: r => if c == '\n' then [] :: splitFeeds r else pushFront c (splitFeeds r)

/-- Pieces put together with line feeds between them. -/
def joinFeeds : List (List Char) → List Char
  | [] => []
  | [l] => l
  | l :: r => l ++ '\n' :: joinFeeds r

/-- The margin that all the lines share which hold more than margin. -/
def commonMargin (ls : List (List Char)) : List Char :=
  match (ls.filter fun l => !l.all isMargin).map marginOf with
  | [] => []
  | m :: ms => ms.foldl commonFront m

/-- The text without the margin that its lines share; lines that hold only margin become empty. -/
def dedent (cs : List Char) : List Char :=
  let ls := splitFeeds cs
  let n := (commonMargin ls).length
  joinFeeds (ls.map fun l => if l.all isMargin then [] else l.drop n)

theorem splitFeeds_ne_nil (cs : List Char) : splitFeeds cs ≠ [] := by
  cases cs with
  | nil => simp [splitFeeds]
  | cons c r => unfold splitFeeds; split <;> cases splitFeeds r <;> simp [pushFront]

theorem joinFeeds_splitFeeds (cs : List Char) : joinFeeds (splitFeeds cs) = cs := by
  induction cs with
  | nil => rfl
  | cons c r ih =>
    unfold splitFeeds
    cases hs : splitFeeds r with
    | nil => exact absurd hs (splitFeeds_ne_nil r)
    | cons l ls =>
      rw [hs] at ih
      by_cases hc : c = '\n'
      · simp [hc, joinFeeds, ih]
      · cases ls <;> simp_all [pushFront, joinFeeds]

end Facade.Text
