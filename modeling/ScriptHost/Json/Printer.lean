import ScriptHost.Json.Basic
import ScriptHost.Number.Layout
import ScriptHost.Text.Quoted

/-!
# JSON text

The compact text of a tree: no blanks, members in their order, strings with the fewest
escapes that JSON allows, floats by their shortest decimal.
-/

namespace ScriptHost.Json

/-- How one character stands inside a JSON string: only quotes, backslashes and the
control characters are escaped. -/
def escapeChar (c : Char) : List Char :=
  match c with
  | '"' => ['\\', '"']
  | '\\' => ['\\', '\\']
  | '\x08' => ['\\', 'b']
  | '\x0c' => ['\\', 'f']
  | '\n' => ['\\', 'n']
  | '\r' => ['\\', 'r']
  | '\t' => ['\\', 't']
  | c =>
    if c.toNat < 0x20 then
      ['\\', 'u', '0', '0', (c.toNat / 16).digitChar, (c.toNat % 16).digitChar]
    else [c]

/-- The JSON text of a string. -/
def writeString (s : String) : String :=
  String.ofList ('"' :: s.toList.flatMap escapeChar ++ ['"'])

/-- The JSON text of a number. -/
def writeNumber : JsonNumber → String
  | .integer n => n.repr
  | .float x _ => Layout.document.write x

mutual

/-- The compact text of a tree. -/
def write : Json → String
  | null => "null"
  | bool b => if b then "true" else "false"
  | number n => writeNumber n
  | string s => writeString s
  | array items => "[" ++ writeItems items ++ "]"
  | object members => "\x7b" ++ writeMembers members ++ "\x7d"

/-- The texts of items with commas between them. -/
def writeItems : List Json → String
  | [] => ""
  | [j] => write j
  | j :: js => write j ++ "," ++ writeItems js

/-- The texts of members with commas between them. -/
def writeMembers : List (String × Json) → String
  | [] => ""
  | [(k, j)] => writeString k ++ ":" ++ write j
  | (k, j) :: ms => writeString k ++ ":" ++ write j ++ "," ++ writeMembers ms

end

end ScriptHost.Json
