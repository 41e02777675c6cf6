import RuleBench.Json.Basic

set_option autoImplicit false

/-!
# JSON text

Compact text has no blanks.  Pretty text puts every item and member on a line of its own, two spaces
deeper than what holds it; empty lists and objects stay closed.  Only the quote, the backslash and
control characters are escaped.
-/

namespace RuleBench.Json

/-- Four hexadecimal digits. -/
def hex4 (n : Nat) : List Char :=
  let digits := Nat.toDigits 16 n
  List.replicate (4 - digits.length) '0' ++ digits

def escapeChar (c : Char) : List Char :=
  match c with
  | '"' => ['\\', '"']
  | '\\' => ['\\', '\\']
  | '\x08' => ['\\', 'b']
  | '\x0c' => ['\\', 'f']
  | '\n' => ['\\', 'n']
  | '\r' => ['\\', 'r']
  | '\t' => ['\\', 't']
  | c => if c.toNat < 32 then '\\' :: 'u' :: hex4 c.toNat else [c]

def stringText (s : String) : List Char := '"' :: s.toList.flatMap escapeChar ++ ['"']

mutual

def compactText : Json → List Char
  | .null => ['n', 'u', 'l', 'l']
  | .bool true => ['t', 'r', 'u', 'e']
  | .bool false => ['f', 'a', 'l', 's', 'e']
  | .num n => n.text
  | .str s => stringText s
  | .arr items => '[' :: compactItems items ++ [']']
  | .obj members => '\x7b' :: compactMembers members ++ ['\x7d']

def compactItems : List Json → List Char
  | [] => []
  | [x] => compactText x
  | x :: rest => compactText x ++ ',' :: compactItems rest

def compactMembers : List (String × Json) → List Char
  | [] => []
  | [(n, v)] => stringText n ++ ':' :: compactText v
  | (n, v) :: rest => stringText n ++ ':' :: compactText v ++ ',' :: compactMembers rest

end

/-- A new line, `depth` levels deep. -/
def newLine (depth : Nat) : List Char := '\n' :: List.replicate (2 * depth) ' '

mutual

def prettyText (depth : Nat) : Json → List Char
  | .arr [] => ['[', ']']
  | .arr items => '[' :: prettyItems (depth + 1) items ++ newLine depth ++ [']']
  | .obj [] => ['\x7b', '\x7d']
  | .obj members => '\x7b' :: prettyMembers (depth + 1) members ++ newLine depth ++ ['\x7d']
  | other => compactText other

def prettyItems (depth : Nat) : List Json → List Char
  | [] => []
  | [x] => newLine depth ++ prettyText depth x
  | x :: rest => newLine depth ++ prettyText depth x ++ ',' :: prettyItems depth rest

def prettyMembers (depth : Nat) : List (String × Json) → List Char
  | [] => []
  | [(n, v)] => newLine depth ++ stringText n ++ [':', ' '] ++ prettyText depth v
  | (n, v) :: rest =>
    newLine depth ++ stringText n ++ [':', ' '] ++ prettyText depth v ++ ',' ::
      prettyMembers depth rest

end

def compact (v : Json) : String := String.ofList v.compactText

def pretty (v : Json) : String := String.ofList (v.prettyText 0)

end RuleBench.Json
