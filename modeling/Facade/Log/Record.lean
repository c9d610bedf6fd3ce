import Facade.Failure
import Facade.Store.Display
import Facade.Text.JsonText

/-!
# Log records

* `LogContext`: where a record was made: a component, an operation, a session, further facts.
* `Record`: a record with its context, if it has one.
* `Pattern`: how the first part of a line is laid out.
* `Record.text?`: a record as a line of text.
* `Record.fields`, `Record.jsonAt`, `Record.json`: a record as a JSON object, with its time and
  without.
-/

namespace Facade.Log

/-- Where a record was made. -/
structure LogContext where
  /-- The component. -/
  component : String := ""
  /-- The operation. -/
  operation : String := ""
  /-- The session. -/
  session : String := ""
  /-- Further facts; a fact stated again keeps its place. -/
  extra : Table String String := {}
  deriving Repr, Inhabited

/-- The context with further facts. -/
def LogContext.withExtra (c : LogContext) (facts : List (String × String)) : LogContext :=
  { c with extra := c.extra.union ⟨facts⟩ }

/-- A record. -/
structure Record where
  /-- The logger that made it. -/
  logger : String
  /-- How grave it is. -/
  level : Int
  /-- The message. -/
  message : String
  /-- The text of an exception that goes with it. -/
  exception : Option String := none
  /-- Its context. -/
  context : Option LogContext := none
  deriving Repr, Inhabited

/-! ## Levels -/

/-- The levels that have names. -/
def levels : List (String × Int) :=
  [("NOTSET", 0), ("DEBUG", 10), ("INFO", 20), ("WARNING", 30), ("ERROR", 40), ("CRITICAL", 50)]

/-- The name of a level. -/
def levelName (n : Int) : String :=
  ((levels.find? fun l => l.2 == n).map Prod.fst).getD ("Level " ++ toString n)

/-! ## Patterns -/

/-- What a field of a record holds. -/
inductive Field where
  | text (s : String)
  | number (n : Int)
  deriving DecidableEq, Repr

/-- The field of a record with a name. -/
def Record.field? (r : Record) (name : String) : Option Field :=
  match name with
  | "name" => some (.text r.logger)
  | "levelname" => some (.text (levelName r.level))
  | "levelno" => some (.number r.level)
  | "message" | "msg" => some (.text r.message)
  | "pathname" | "filename" | "module" => some (.text "(unknown file)")
  | "lineno" => some (.number 0)
  | "funcName" => some (.text "None")
  | _ => none

/-- A piece of a pattern. -/
inductive Piece where
  | char (c : Char)
  /-- A field: its name, whether it is put to the left of its width, whether it is filled with
  zeros, its width, how many characters of it are kept, and whether it is a number. -/
  | field (name : String) (left zeros : Bool) (width : Nat) (kept : Option Nat) (isNumber : Bool)
  deriving DecidableEq, Repr

/-- A number at the front of a text, and the rest. -/
def takeNumber (cs : List Char) : Option Nat × List Char :=
  let ds := cs.takeWhile Char.isDigit
  (if ds.isEmpty then none else (String.ofList ds).toNat?, cs.dropWhile Char.isDigit)

/-- Reads a field after its percent sign. -/
def readField? (cs : List Char) : Option (Piece × List Char) :=
  match cs with
  | '(' :: r =>
    let name := r.takeWhile (· != ')')
    let r := (r.dropWhile (· != ')')).drop 1
    let isFlag (c : Char) : Bool := ['#', '0', '+', ' ', '-'].contains c
    let flags := r.takeWhile isFlag
    let (width, r) := takeNumber (r.dropWhile isFlag)
    let (kept, r) := match r with
      | '.' :: s => let (n, s) := takeNumber s; (some (n.getD 0), s)
      | r => (none, r)
    let piece (isNumber : Bool) : Piece :=
      .field (String.ofList name) (flags.contains '-') (flags.contains '0') (width.getD 0) kept
        isNumber
    match r with
    | c :: r =>
      if c == 's' then some (piece false, r)
      else if c == 'd' || c == 'i' then some (piece true, r)
      else none
    | [] => none
  | _ => none

/-- Reads a pattern; the first argument bounds its length. -/
def readPattern : Nat → List Char → Except Fault (List Piece)
  | 0, _ => .ok []
  | _ + 1, [] => .ok []
  | fuel + 1, '%' :: '%' :: r => (readPattern fuel r).map (.char '%' :: ·)
  | fuel + 1, '%' :: r =>
    match readField? r with
    | some (p, r) => (readPattern fuel r).map (p :: ·)
    | none => .error .value
  | fuel + 1, c :: r => (readPattern fuel r).map (.char c :: ·)

/-- A text brought to a width. -/
def pad (left zeros : Bool) (width : Nat) (s : String) : String :=
  let fill := List.replicate (width - s.length) (if zeros && !left then '0' else ' ')
  if left then s ++ String.ofList fill else String.ofList fill ++ s

/-- The text of a piece. -/
def Piece.text? (r : Record) : Piece → Except Fault String
  | .char c => .ok (String.singleton c)
  | .field name left zeros width kept isNumber =>
    match r.field? name with
    | none => .error .value
    | some (.text s) =>
      if isNumber then .error .type
      else .ok (pad left false width (kept.elim s fun k => String.ofList (s.toList.take k)))
    | some (.number n) => .ok (pad left (zeros && isNumber) width (toString n))

/-- The pattern used unless another is set. -/
def defaultPattern : String := "%(levelname)s %(message)s"

/-! ## Lines of text -/

/-- What stands in front of a line. -/
def LogContext.front (c : LogContext) : String :=
  let parts := (if c.component.isEmpty then [] else ["[" ++ c.component ++ "]"]) ++
    (if c.operation.isEmpty then [] else ["(" ++ c.operation ++ ")"]) ++
    (if c.session.isEmpty then [] else
      ["session:" ++ String.ofList (c.session.toList.take 8)])
  if parts.isEmpty then "" else " ".intercalate parts ++ " "

/-- What stands at the end of a line. -/
def LogContext.back (c : LogContext) : String :=
  if c.extra.entries.isEmpty then ""
  else " " ++ " ".intercalate (c.extra.entries.map fun e => e.1 ++ "=" ++ e.2)

/-- A line with the text of an exception under it. -/
def withException (line : String) : Option String → String
  | none => line
  | some e => (if line.endsWith "\n" then line else line ++ "\n") ++ e

/-- A record as a line of text. -/
def Record.text? (r : Record) (pattern : String) : Except Fault String := do
  let pieces ← readPattern (pattern.length + 1) pattern.toList
  let line := String.join (← pieces.mapM (Piece.text? r))
  return ((r.context.map LogContext.front).getD "") ++ withException line r.exception ++
    ((r.context.map LogContext.back).getD "")

/-! ## JSON objects -/

/-- The facts of a context, an empty one left out. -/
def LogContext.facts (c : LogContext) : List (String × String) :=
  ([("component", c.component), ("operation", c.operation), ("session", c.session)].filter
    fun e => !e.2.isEmpty) ++ c.extra.entries

/-- What a record says of itself: when it was made, how grave it is, who made it, its message and the
exception that goes with it. -/
def Record.own (r : Record) (time : String) : List (String × String) :=
  [("timestamp", time), ("level", levelName r.level), ("logger", r.logger),
    ("message", r.message)] ++ (r.exception.map fun e => ("exception", e)).toList

/-- The fields of the JSON object of a record that was made at a time. A fact that is stated again
takes the place of the first. -/
def Record.fields (r : Record) (time : String) : Table String String :=
  (Table.ofList (r.own time)).union ⟨(r.context.map LogContext.facts).getD []⟩

/-- The entries of the JSON object of a record, its time left out. -/
def Record.entries (r : Record) : List (String × String) :=
  (r.fields "").entries.filter fun e => e.1 != "timestamp"

/-- A record that was made at a time as a JSON object. -/
def Record.jsonAt (r : Record) (time : String) : String := Text.jsonObject (r.fields time).entries

/-- A record as a JSON object, its time left out. -/
def Record.json (r : Record) : String := Text.jsonObject r.entries

/-! ## Records of a run -/

/-- The record that a run left behind. -/
def ofRun (r : LogRecord) : Record :=
  { logger := "typeforge." ++ r.component
    level := ((levels.find? fun l => l.1 == r.level).map Prod.snd).getD 0
    message := r.message
    context := some
      { component := r.component, operation := r.operation,
        extra := Table.ofList r.extra } }

end Facade.Log
