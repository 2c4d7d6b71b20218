import Guidebook.Json.Basic

namespace Guidebook.Json

def escape (c : Char) : Text :=
  if c = '"' then "\\\"".toList
  else if c = '\\' then "\\\\".toList
  else if c = '\n' then "\\n".toList
  else if c = '\r' then "\\r".toList
  else if c = '\t' then "\\t".toList
  else if c = '\x08' then "\\b".toList
  else if c = '\x0c' then "\\f".toList
  else if c.toNat < 32 then
    "\\u00".toList ++ [Nat.digitChar (c.toNat / 16), Nat.digitChar (c.toNat % 16)]
  else [c]

def quote (t : Text) : Text := '"' :: t.flatMap escape ++ ['"']

mutual

/-- The value on one line without spaces. -/
def render : Json → Text
  | .null => "null".toList
  | .bool true => "true".toList
  | .bool false => "false".toList
  | .num l => l
  | .str t => quote t
  | .garbled => "\"\\ud800\"".toList
  | .arr vs => '[' :: renderItems vs ++ [']']
  | .obj ms => '\x7b' :: renderMembers ms ++ ['\x7d']

def renderItems : List Json → Text
  | [] => []
  | [v] => render v
  | v :: w :: vs => render v ++ ',' :: renderItems (w :: vs)

def renderMembers : List (Text × Json) → Text
  | [] => []
  | [(k, v)] => quote k ++ ':' :: render v
  | (k, v) :: m :: ms => quote k ++ ':' :: render v ++ ',' :: renderMembers (m :: ms)

end

def newline (depth : Nat) : Text := '\n' :: List.replicate (2 * depth) ' '

mutual

/-- The value over several lines: each item and each member on its own, two spaces deeper than
what holds it. -/
def layout (depth : Nat) : Json → Text
  | .arr [] => "[]".toList
  | .obj [] => ['\x7b', '\x7d']
  | .arr (v :: vs) => '[' :: layoutItems (depth + 1) (v :: vs) ++ newline depth ++ [']']
  | .obj (m :: ms) => '\x7b' :: layoutMembers (depth + 1) (m :: ms) ++ newline depth ++ ['\x7d']
  | .null => "null".toList
  | .bool true => "true".toList
  | .bool false => "false".toList
  | .num l => l
  | .str t => quote t
  | .garbled => "\"\\ud800\"".toList

def layoutItems (depth : Nat) : List Json → Text
  | [] => []
  | [v] => newline depth ++ layout depth v
  | v :: w :: vs => newline depth ++ layout depth v ++ ',' :: layoutItems depth (w :: vs)

def layoutMembers (depth : Nat) : List (Text × Json) → Text
  | [] => []
  | [(k, v)] => newline depth ++ quote k ++ ": ".toList ++ layout depth v
  | (k, v) :: m :: ms =>
    newline depth ++ quote k ++ ": ".toList ++ layout depth v ++ ',' :: layoutMembers depth (m :: ms)

end

def pretty (v : Json) : Text := layout 0 v

end Guidebook.Json
