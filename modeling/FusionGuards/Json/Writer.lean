import FusionGuards.Json
import FusionGuards.Text.Characters

namespace FusionGuards.Json

def escape (c : Char) : List Char :=
  match c with
  | '"' => ['\\', '"']
  | '\\' => ['\\', '\\']
  | '\x08' => ['\\', 'b']
  | '\t' => ['\\', 't']
  | '\n' => ['\\', 'n']
  | '\x0c' => ['\\', 'f']
  | '\r' => ['\\', 'r']
  | c =>
    if c.toNat < 0x20 then
      ['\\', 'u', '0', '0', Text.hexDigit (c.toNat / 16), Text.hexDigit (c.toNat % 16)]
    else [c]

/-- A string literal; text that is no text keeps an escape that is half of a pair. -/
def quote : Str → String
  | some s => .ofList ('"' :: s.toList.flatMap escape ++ ['"'])
  | none => "\"\\ud800\""

def Number.render (n : Number) : String :=
  let sign := if n.negative then "-" else ""
  let frac := if n.fraction = [] then "" else "." ++ .join (n.fraction.map toString)
  let exp := match n.exponent with
    | none => ""
    | some e => "e" ++ toString e
  sign ++ toString n.whole ++ frac ++ exp

mutual

def render : Json → String
  | .null => "null"
  | .bool true => "true"
  | .bool false => "false"
  | .number n => n.render
  | .string s => quote s
  | .array es => "[" ++ ",".intercalate (renderAll es) ++ "]"
  | .object ms => "\x7b" ++ ",".intercalate (renderMembers ms) ++ "\x7d"

def renderAll : List Json → List String
  | [] => []
  | j :: js => render j :: renderAll js

def renderMembers : List (Str × Json) → List String
  | [] => []
  | (k, j) :: ms => (quote k ++ ":" ++ render j) :: renderMembers ms

end

end FusionGuards.Json
