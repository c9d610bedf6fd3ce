import Facade.Text.Quoted

/-!
# Quoted JSON text

* `jsonQuote`: a text between double quotes in which every character outside printable ASCII is
  escaped.
* `jsonObject`: an object with text values.
-/

namespace Facade.Text

/-- The escape of one unit of sixteen bits. -/
def jsonUnit (n : Nat) : List Char := ['\\', 'u'] ++ hexPadded 4 n

/-- A character as it is written; one outside the first plane takes two units. -/
def jsonChar (c : Char) : List Char :=
  match c with
  | '"' => ['\\', '"']
  | '\\' => ['\\', '\\']
  | '\n' => ['\\', 'n']
  | '\r' => ['\\', 'r']
  | '\t' => ['\\', 't']
  | '\x08' => ['\\', 'b']
  | '\x0c' => ['\\', 'f']
  | c =>
    let n := c.toNat
    if 0x20 ≤ n && n < 0x7f then [c]
    else if n < 0x10000 then jsonUnit n
    else jsonUnit (0xd800 + (n - 0x10000) / 0x400) ++ jsonUnit (0xdc00 + (n - 0x10000) % 0x400)

/-- A text between double quotes. -/
def jsonQuote (s : String) : String :=
  String.ofList ('"' :: s.toList.flatMap jsonChar ++ ['"'])

/-- An object with text values. -/
def jsonObject (entries : List (String × String)) : String :=
  "\x7b" ++ ", ".intercalate (entries.map fun e => jsonQuote e.1 ++ ": " ++ jsonQuote e.2) ++ "\x7d"

end Facade.Text
