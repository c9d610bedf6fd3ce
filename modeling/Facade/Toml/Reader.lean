import Facade.Number.Decimal
import Facade.Toml.Document

/-!
# Reading TOML

A reader takes characters and gives what it read with the characters that follow; it gives nothing
if the text is no TOML. Leaves come first: blanks and comments, texts, keys, numbers, dates. Values
and statements follow.

* `readBasic`, `readLiteral`: texts after their opening quote.
* `readKey`: a key with dots.
* `readValue`: a value.
* `parse?`: the table that a whole text denotes.
-/

namespace Facade.Toml

/-! ## Blanks and comments -/

/-- Whether a character separates tokens of a line. -/
def isBlank (c : Char) : Bool := c == ' ' || c == '\t'

/-- Whether a character must not occur, not even in texts and comments. -/
def isControl (c : Char) : Bool := (c.toNat < 0x20 && c != '\t') || c.toNat == 0x7f

/-- What follows the blanks at the front. -/
def skipBlanks (cs : List Char) : List Char := cs.dropWhile isBlank

/-- What follows the comment at the front, if there is one. -/
def skipComment (cs : List Char) : Option (List Char) :=
  match cs with
  | '#' :: r =>
    if (r.takeWhile (· != '\n')).any isControl then none else some (r.dropWhile (· != '\n'))
  | cs => some cs

/-- What follows the blanks, line ends and comments at the front. -/
def skipFiller (inComment : Bool) : List Char → Option (List Char)
  | [] => some []
  | c :: r =>
    if inComment then
      if c == '\n' then skipFiller false r
      else if isControl c then none
      else skipFiller true r
    else if isBlank c || c == '\n' then skipFiller false r
    else if c == '#' then skipFiller true r
    else some (c :: r)

/-! ## Texts -/

/-- The characters of one-letter escapes. -/
def escape? (c : Char) : Option Char :=
  match c with
  | 'b' => some '\x08'
  | 't' => some '\t'
  | 'n' => some '\n'
  | 'f' => some '\x0c'
  | 'r' => some '\r'
  | '"' => some '"'
  | '\\' => some '\\'
  | _ => none

/-- The character with a number in hexadecimal digits. -/
def scalar? (digits : List Char) : Option Char := do
  let n ← digits.foldlM (fun n c => do
    let d ← if c.isAlphanum then Uuid.hexVal? c else none
    return 16 * n + d) 0
  if n < 0xd800 || (0xe000 ≤ n && n < 0x110000) then some (Char.ofNat n) else none

/-- What a text over several lines ends with: up to two quotes in front of the closing ones belong to
it. -/
def closing (q : Char) (cs : List Char) : List Char × List Char :=
  match cs with
  | a :: b :: r =>
    if a == q then if b == q then ([q, q], r) else ([q], b :: r) else ([], cs)
  | [a] => if a == q then ([q], []) else ([], cs)
  | [] => ([], [])

/-- A text with escapes, after its opening quotes. `trimming` holds after a line that was continued
with a backslash: blanks and line ends are left out. -/
def readBasic (multiline trimming : Bool) : List Char → Option (List Char × List Char)
  | [] => none
  | '"' :: r =>
    if multiline then
      match r with
      | '"' :: '"' :: r' => some (closing '"' r')
      | _ => (readBasic multiline false r).map fun p => ('"' :: p.1, p.2)
    else some ([], r)
  | '\\' :: 'u' :: a :: b :: c :: d :: r => do
    let ch ← scalar? [a, b, c, d]
    let p ← readBasic multiline false r
    return (ch :: p.1, p.2)
  | '\\' :: 'U' :: a :: b :: c :: d :: e :: f :: g :: h :: r => do
    let ch ← scalar? [a, b, c, d, e, f, g, h]
    let p ← readBasic multiline false r
    return (ch :: p.1, p.2)
  | '\\' :: e :: r =>
    match escape? e with
    | some ch => (readBasic multiline false r).map fun p => (ch :: p.1, p.2)
    | none =>
      if multiline && (skipBlanks (e :: r)).head? == some '\n' then readBasic multiline true r
      else none
  | c :: r =>
    if trimming && (isBlank c || c == '\n') then readBasic multiline true r
    else if c == '\\' then none
    else if isControl c && !(multiline && c == '\n') then none
    else (readBasic multiline false r).map fun p => (c :: p.1, p.2)

/-- A text without escapes, after its opening quotes. -/
def readLiteral (multiline : Bool) : List Char → Option (List Char × List Char)
  | [] => none
  | '\'' :: r =>
    if multiline then
      match r with
      | '\'' :: '\'' :: r' => some (closing '\'' r')
      | _ => (readLiteral multiline r).map fun p => ('\'' :: p.1, p.2)
    else some ([], r)
  | c :: r =>
    if isControl c && !(multiline && c == '\n') then none
    else (readLiteral multiline r).map fun p => (c :: p.1, p.2)

/-- A text of any kind; a line end directly after three quotes does not count. -/
def readText (cs : List Char) : Option (String × List Char) :=
  let dropFeed (r : List Char) : List Char :=
    match r with
    | '\n' :: r => r
    | r => r
  let result := match cs with
    | '"' :: '"' :: '"' :: r => readBasic true false (dropFeed r)
    | '"' :: r => readBasic false false r
    | '\'' :: '\'' :: '\'' :: r => readLiteral true (dropFeed r)
    | '\'' :: r => readLiteral false r
    | _ => none
  result.map fun p => (String.ofList p.1, p.2)

/-! ## Keys -/

/-- Whether a character can stand in a key without quotes. -/
def isBare (c : Char) : Bool := c.isAlphanum || c == '-' || c == '_'

/-- One part of a key. -/
def readKeyPart (cs : List Char) : Option (String × List Char) :=
  match cs with
  | '"' :: r => (readBasic false false r).map fun p => (String.ofList p.1, p.2)
  | '\'' :: r => (readLiteral false r).map fun p => (String.ofList p.1, p.2)
  | cs =>
    let word := cs.takeWhile isBare
    if word.isEmpty then none else some (String.ofList word, cs.dropWhile isBare)

/-- A key with dots, and what follows the blanks behind it. The first argument bounds its length. -/
def readKey : Nat → List Char → Option (Key × List Char)
  | 0, _ => none
  | fuel + 1, cs => do
    let (name, r) ← readKeyPart cs
    match skipBlanks r with
    | '.' :: r =>
      let (k, r) ← readKey fuel (skipBlanks r)
      return ({ k with front := name :: k.front }, r)
    | r => return ({ last := name }, r)

/-! ## Numbers and dates -/

/-- Exactly `n` decimal digits. -/
def readFixed (n : Nat) (cs : List Char) : Option (Nat × List Char) :=
  let ds := cs.take n
  if ds.length = n && ds.all Char.isDigit then some (Number.digitsVal ds, cs.drop n) else none

/-- What follows a character. -/
def expect (c : Char) (cs : List Char) : Option (List Char) :=
  match cs with
  | d :: r => if d == c then some r else none
  | [] => none

/-- A time of day; digits of the second beyond the sixth are left out. -/
def readClock (cs : List Char) : Option (Clock × List Char) := do
  let (h, r) ← readFixed 2 cs
  let (m, r) ← readFixed 2 (← expect ':' r)
  let (s, r) ← readFixed 2 (← expect ':' r)
  if 23 < h || 59 < m || 59 < s then none
  else
    match r with
    | '.' :: r' =>
      let ds := r'.takeWhile Char.isDigit
      if ds.isEmpty then return (⟨h, m, s, 0⟩, r)
      else
        let kept := (ds ++ List.replicate 6 '0').take 6
        return (⟨h, m, s, Number.digitsVal kept⟩, r'.dropWhile Char.isDigit)
    | r => return (⟨h, m, s, 0⟩, r)

/-- The minutes by which local time is ahead, where they are stated. -/
def readAhead (cs : List Char) : Option Int × List Char :=
  let signed (negative : Bool) (r : List Char) : Option (Option Int × List Char) := do
    let (h, r) ← readFixed 2 r
    let (m, r) ← readFixed 2 (← expect ':' r)
    let n : Int := (60 * h + m : Nat)
    if 23 < h || 59 < m then none else return (some (if negative then -n else n), r)
  match cs with
  | 'Z' :: r | 'z' :: r => (some 0, r)
  | '+' :: r => (signed false r).getD (none, cs)
  | '-' :: r => (signed true r).getD (none, cs)
  | cs => (none, cs)

/-- A day, alone or with a time of day. -/
def readMoment (cs : List Char) : Option (Moment × List Char) := do
  let (y, r) ← readFixed 4 cs
  let (m, r) ← readFixed 2 (← expect '-' r)
  let (d, r) ← readFixed 2 (← expect '-' r)
  let date : Date := ⟨y, m, d⟩
  if !date.isValid then none
  else
    match r with
    | c :: r' =>
      match if c == 'T' || c == 't' || c == ' ' then readClock r' else none with
      | some (t, r') =>
        let (ahead, r') := readAhead r'
        return (.instant date t ahead, r')
      | none => return (.date date, r)
    | [] => return (.date date, [])

/-- The digits of a base, single underscores allowed between them. -/
def readBased (base : Nat) (cs : List Char) : Option (Nat × List Char) := do
  let digit? (c : Char) : Option Nat :=
    (if c.isAlphanum then Uuid.hexVal? c else none).filter (· < base)
  let rec go (acc : Nat) : List Char → Nat × List Char
    | [] => (acc, [])
    | [c] =>
      match digit? c with
      | some d => (base * acc + d, [])
      | none => (acc, [c])
    | c :: c' :: r =>
      match digit? c with
      | some d => go (base * acc + d) (c' :: r)
      | none =>
        if c == '_' then
          match digit? c' with
          | some d => go (base * acc + d) r
          | none => (acc, c :: c' :: r)
        else (acc, c :: c' :: r)
  match cs with
  | c :: r => return go (← digit? c) r
  | [] => none

/-- The exponent of a number, if there is one. -/
def readExponent? (cs : List Char) : Option (Int × List Char) :=
  match cs with
  | e :: _ =>
    if e == 'e' || e == 'E' then
      let (n, r) := Number.readExponent cs
      if r.length = cs.length then none else some (n, r)
    else none
  | [] => none

/-- A decimal number: an integer unless it has a fraction or an exponent. -/
def readDecimal (cs : List Char) : Option (Value × List Char) :=
  let (negative, r) := match cs with
    | '-' :: r => (true, r)
    | '+' :: r => (false, r)
    | r => (false, r)
  let (whole, r) := match r with
    | '0' :: r => (['0'], r)
    | r => Number.readDigits r
  if whole.isEmpty then none
  else
    let (fraction, r) := match r with
      | '.' :: r' =>
        match Number.readDigits r' with
        | ([], _) => ([], r)
        | (ds, r') => (ds, r')
      | r => ([], r)
    let real (e : Int) (r : List Char) : Option (Value × List Char) :=
      some (.float (.ofDecimal negative (Number.digitsVal (whole ++ fraction))
        (e - fraction.length)), r)
    match readExponent? r with
    | some (e, r) => real e r
    | none =>
      if fraction.isEmpty then
        let n : Int := Number.digitsVal whole
        some (.int (if negative then -n else n), r)
      else real 0 r

/-- An infinity, or the number that is none. -/
def readSpecial (cs : List Char) : Option (Value × List Char) :=
  let (negative, r) := match cs with
    | '-' :: r => (true, r)
    | '+' :: r => (false, r)
    | r => (false, r)
  match r with
  | 'i' :: 'n' :: 'f' :: r => some (.float (.infinity negative), r)
  | 'n' :: 'a' :: 'n' :: r => some (.float .nan, r)
  | _ => none

/-- A number in any of its forms. -/
def readNumber (cs : List Char) : Option (Value × List Char) :=
  let based (base : Nat) (r : List Char) : Option (Value × List Char) :=
    (readBased base r).map fun p => (.int p.1, p.2)
  let prefixed := match cs with
    | '0' :: 'x' :: r => based 16 r
    | '0' :: 'o' :: r => based 8 r
    | '0' :: 'b' :: r => based 2 r
    | _ => none
  prefixed <|> readDecimal cs <|> readSpecial cs

/-- A day looks like one from its first nine characters on; then it must be a day. -/
def looksLikeDay (cs : List Char) : Bool :=
  let day : Option (Nat × Nat) := do
    let (_, r) ← readFixed 4 cs
    let (m, r) ← readFixed 2 (← expect '-' r)
    let (d, _) ← readFixed 2 (← expect '-' r)
    return (m, d)
  day.any fun p => 1 ≤ p.1 && p.1 ≤ 12 && 1 ≤ p.2 && p.2 ≤ 31

/-- A value that is no text and contains no other. -/
def readScalar (cs : List Char) : Option (Value × List Char) :=
  match cs with
  | 't' :: 'r' :: 'u' :: 'e' :: r => some (.bool true, r)
  | 'f' :: 'a' :: 'l' :: 's' :: 'e' :: r => some (.bool false, r)
  | cs =>
    if looksLikeDay cs then (readMoment cs).map fun p => (.moment p.1, p.2)
    else match readClock cs with
      | some (t, r) => some (.moment (.time t), r)
      | none => readNumber cs

/-! ## Values -/

mutual

/-- A value. The first argument bounds how deep it is nested. -/
def readValue : Nat → List Char → Option (Value × List Char)
  | 0, _ => none
  | fuel + 1, cs =>
    match cs with
    | '[' :: r => (readArray fuel [] r).map fun p => (.list p.1, p.2)
    | '\x7b' :: r =>
      match skipBlanks r with
      | '\x7d' :: r => some (.dict [], r)
      | r => (readPairs fuel [] r).map fun p => (p.1.toValue, p.2)
    | '"' :: _ | '\'' :: _ => (readText cs).map fun p => (.str p.1, p.2)
    | cs => readScalar cs

/-- The rest of an array, after the values `earlier`. -/
def readArray : Nat → List Value → List Char → Option (List Value × List Char)
  | 0, _, _ => none
  | fuel + 1, earlier, cs => do
    match ← skipFiller false cs with
    | ']' :: r => return (earlier, r)
    | r =>
      let (v, r) ← readValue fuel r
      match ← skipFiller false r with
      | ']' :: r => return (earlier ++ [v], r)
      | ',' :: r => readArray fuel (earlier ++ [v]) r
      | _ => none

/-- The rest of a table on one line, after the entries `earlier`. -/
def readPairs : Nat → Entries → List Char → Option (Entries × List Char)
  | 0, _, _ => none
  | fuel + 1, earlier, cs => do
    let (k, r) ← readKey (cs.length + 1) cs
    let (v, r) ← readValue fuel (skipBlanks (← expect '=' r))
    let es ← earlier.assign 0 k.last v k.front
    match skipBlanks r with
    | '\x7d' :: r => return (es, r)
    | ',' :: r => readPairs fuel es (skipBlanks r)
    | _ => none

end

/-! ## Statements -/

/-- What has been read of a document. -/
structure Reading where
  /-- Its content. -/
  document : Entries := []
  /-- The table that keys are put into. -/
  header : List String := []
  /-- How many headers there were. -/
  part : Nat := 0

/-- A header, or a key with its value. -/
def readStatement (s : Reading) (cs : List Char) : Option (Reading × List Char) :=
  let fuel := cs.length + 1
  match cs with
  | '[' :: '[' :: r => do
    let (k, r) ← readKey fuel (skipBlanks r)
    let es ← s.document.extend k
    return (⟨es, k.parts, s.part + 1⟩, ← expect ']' (← expect ']' r))
  | '[' :: r => do
    let (k, r) ← readKey fuel (skipBlanks r)
    let es ← s.document.declare k
    return (⟨es, k.parts, s.part + 1⟩, ← expect ']' r)
  | cs => do
    let (k, r) ← readKey fuel cs
    let (v, r) ← readValue fuel (skipBlanks (← expect '=' r))
    let es ← s.document.within (Entries.assign s.part k.last v k.front) s.header
    return ({ s with document := es }, r)

/-- The lines of a document; the first argument bounds how many there are. -/
def readLines : Nat → Reading → List Char → Option Entries
  | 0, _, _ => none
  | fuel + 1, s, cs =>
    match skipBlanks cs with
    | [] => some s.document
    | '\n' :: r => readLines fuel s r
    | cs => do
      let (s, r) ← if cs.head? == some '#' then some (s, cs) else readStatement s cs
      match ← skipComment (skipBlanks r) with
      | [] => some s.document
      | '\n' :: r => readLines fuel s r
      | _ => none

/-- Line ends of two characters become those of one. -/
def joinFeeds : List Char → List Char
  | [] => []
  | '\r' :: '\n' :: r => '\n' :: joinFeeds r
  | c :: r => c :: joinFeeds r

/-- The document that a text denotes. -/
def readDocument (cs : List Char) : Option Entries := readLines (cs.length + 1) {} cs

/-- The table that a text denotes. -/
def parse? (s : String) : Option Value :=
  (readDocument (joinFeeds s.toList)).map Entries.toValue

end Facade.Toml
