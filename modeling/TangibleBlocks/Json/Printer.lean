import TangibleBlocks.Json.Basic

/-!
JSON text, compact on one line or with every item on a line of its own and two
blanks of indentation for each level. An empty array or object stays on its
line in both forms.
-/

namespace TangibleBlocks.Json

def escape (c : Char) : List Char :=
  if c = '"' then ['\\', '"']
  else if c = '\\' then ['\\', '\\']
  else if c = '\n' then ['\\', 'n']
  else if c = '\r' then ['\\', 'r']
  else if c = '\t' then ['\\', 't']
  else if c.toNat = 8 then ['\\', 'b']
  else if c.toNat = 12 then ['\\', 'f']
  else if c.toNat < 32 then
    ['\\', 'u', '0', '0', Nat.digitChar (c.toNat / 16), Nat.digitChar (c.toNat % 16)]
  else [c]

/-- A text between quotation marks. -/
def quoted (s : String) : List Char :=
  '"' :: (s.toList.flatMap escape ++ ['"'])

def atom : Json → List Char
  | null => "null".toList
  | bool b => (if b then "true" else "false").toList
  | number n => n.text.toList
  | string s => quoted s
  | _ => []

mutual

def compact : Json → List Char
  | array items => '[' :: compactItems items
  | object members => '\x7b' :: compactMembers members
  | j => atom j

/-- The items behind the opening bracket, and the closing one. -/
def compactItems : List Json → List Char
  | [] => [']']
  | [j] => compact j ++ [']']
  | j :: rest => compact j ++ ',' :: compactItems rest

def compactMembers : List (String × Json) → List Char
  | [] => ['\x7d']
  | [(k, j)] => quoted k ++ ':' :: compact j ++ ['\x7d']
  | (k, j) :: rest => quoted k ++ ':' :: compact j ++ ',' :: compactMembers rest

end

def newline (depth : Nat) : List Char :=
  '\n' :: List.replicate (2 * depth) ' '

mutual

def pretty (depth : Nat) : Json → List Char
  | array [] => ['[', ']']
  | array items => '[' :: prettyItems depth items
  | object [] => ['\x7b', '\x7d']
  | object members => '\x7b' :: prettyMembers depth members
  | j => atom j

/-- The items behind the opening bracket, one level deeper than `depth`, and the closing one. -/
def prettyItems (depth : Nat) : List Json → List Char
  | [] => newline depth ++ [']']
  | [j] => newline (depth + 1) ++ pretty (depth + 1) j ++ newline depth ++ [']']
  | j :: rest => newline (depth + 1) ++ pretty (depth + 1) j ++ ',' :: prettyItems depth rest

def prettyMembers (depth : Nat) : List (String × Json) → List Char
  | [] => newline depth ++ ['\x7d']
  | [(k, j)] =>
    newline (depth + 1) ++ quoted k ++ ':' :: ' ' :: pretty (depth + 1) j ++ newline depth ++
      ['\x7d']
  | (k, j) :: rest =>
    newline (depth + 1) ++ quoted k ++ ':' :: ' ' :: pretty (depth + 1) j ++
      ',' :: prettyMembers depth rest

end

def toCompact (j : Json) : String :=
  String.ofList (compact j)

def toPretty (j : Json) : String :=
  String.ofList (pretty 0 j)

end TangibleBlocks.Json
