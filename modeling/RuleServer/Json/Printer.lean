import RuleServer.Json.Basic
import RuleServer.Number.Shortest
import RuleServer.Text.Quoted

/-!
JSON on one line without blanks.
-/

namespace RuleServer

/-- A real number has its point after at most sixteen digits and at most five zeros; beyond that it
is written with an exponent. -/
def JsonNumber.format : RealFormat where
  positional point := -5 < point && point ≤ 16

namespace JsonNumber

def render : JsonNumber → List Char
  | .integer i => (integerText i).toList
  | .real x => (format.write x).toList

end JsonNumber

namespace Json

/-- A character inside a JSON string: quotes, backslashes and control characters are escaped. -/
def escapeChar (c : Char) : List Char :=
  match c with
  | '"' => ['\\', '"']
  | '\\' => ['\\', '\\']
  | '\x08' => ['\\', 'b']
  | '\x0c' => ['\\', 'f']
  | '\n' => ['\\', 'n']
  | '\r' => ['\\', 'r']
  | '\t' => ['\\', 't']
  | c =>
    if c.toNat < 0x20 then
      ['\\', 'u', '0', '0', hexDigit (c.toNat / 16), hexDigit (c.toNat % 16)]
    else [c]

def renderString (s : String) : List Char :=
  '"' :: s.toList.flatMap escapeChar ++ ['"']

mutual

def render : Json → List Char
  | .null => ['n', 'u', 'l', 'l']
  | .bool true => ['t', 'r', 'u', 'e']
  | .bool false => ['f', 'a', 'l', 's', 'e']
  | .number n => n.render
  | .string s => renderString s
  | .array [] => ['[', ']']
  | .array (item :: items) => '[' :: render item ++ renderItems items ++ [']']
  | .object [] => ['\x7b', '\x7d']
  | .object ((name, value) :: members) =>
    '\x7b' :: renderString name ++ ':' :: render value ++ renderMembers members ++ ['\x7d']

def renderItems : List Json → List Char
  | [] => []
  | item :: items => ',' :: render item ++ renderItems items

def renderMembers : List (String × Json) → List Char
  | [] => []
  | (name, value) :: members =>
    ',' :: renderString name ++ ':' :: render value ++ renderMembers members

end

def compact (value : Json) : String :=
  String.ofList value.render

end Json

end RuleServer
