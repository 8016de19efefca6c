import QueryLoom.Binary.Shortest
import QueryLoom.Json.Basic
import QueryLoom.Text.Hex
import QueryLoom.Text.Quoted

/-!
# JSON text

Two ways to write a JSON value.

* `Json.render` : compact text, without spaces, escaping no more than it must;
* `Json.inspect` : the form of log lines, which names the kind of each value.
-/

namespace QueryLoom.Json

/-! ## Compact text -/

/-- A character inside a JSON string. -/
def escape (c : Char) : List Char :=
  if c = '"' then ['\\', '"']
  else if c = '\\' then ['\\', '\\']
  else if c = '\x08' then ['\\', 'b']
  else if c = '\x0c' then ['\\', 'f']
  else if c = '\n' then ['\\', 'n']
  else if c = '\x0d' then ['\\', 'r']
  else if c = '\t' then ['\\', 't']
  else if c.toNat < 0x20 then ['\\', 'u'] ++ Text.Hex.word 4 c.toNat
  else [c]

/-- A text as a JSON string. -/
def renderText (s : String) : List Char := '"' :: s.toList.flatMap escape ++ ['"']

/-- A fraction in a layout; what is no finite number has no JSON text and becomes `null`. -/
def renderFloat {f : Binary.Format} (l : Binary.Layout) (x : Binary f) : List Char :=
  if x.isFinite then x.text l else "null".toList

/-- A number. -/
def Number.render : Number → List Char
  | .int n => Text.decimalInt n
  | .float x => renderFloat .json x

/-- Joins texts with a comma between them. -/
def commaSeparated : List (List Char) → List Char
  | [] => []
  | [item] => item
  | item :: rest => item ++ ',' :: commaSeparated rest

mutual

/-- The compact text of a value. -/
def render : Json → List Char
  | .null => "null".toList
  | .bool b => if b then "true".toList else "false".toList
  | .number n => n.render
  | .text s => renderText s
  | .array items => '[' :: commaSeparated (renderItems items) ++ [']']
  | .object members => '\x7b' :: commaSeparated (renderMembers members) ++ ['\x7d']

/-- The texts of items. -/
def renderItems : List Json → List (List Char)
  | [] => []
  | j :: js => render j :: renderItems js

/-- The texts of members. -/
def renderMembers : List (String × Json) → List (List Char)
  | [] => []
  | (k, j) :: ms => (renderText k ++ ':' :: render j) :: renderMembers ms

end

/-- The compact text of a value, as a string. -/
def compact (j : Json) : String := String.ofList j.render

/-! ## Log lines -/

/-- Joins texts with a comma and a space between them. -/
def spaced : List (List Char) → List Char
  | [] => []
  | [item] => item
  | item :: rest => item ++ ',' :: ' ' :: spaced rest

mutual

/-- The form of a value in log lines. -/
def inspect : Json → List Char
  | .null => "Null".toList
  | .bool b => "Bool(".toList ++ (if b then "true".toList else "false".toList) ++ [')']
  | .number n => "Number(".toList ++ n.render ++ [')']
  | .text s => "String(".toList ++ Text.quote s.toList ++ [')']
  | .array items => "Array [".toList ++ spaced (inspectItems items) ++ [']']
  | .object members =>
    "Object ".toList ++ '\x7b' :: spaced (inspectMembers members) ++ ['\x7d']

/-- The forms of items. -/
def inspectItems : List Json → List (List Char)
  | [] => []
  | j :: js => inspect j :: inspectItems js

/-- The forms of members. -/
def inspectMembers : List (String × Json) → List (List Char)
  | [] => []
  | (k, j) :: ms => (Text.quote k.toList ++ ':' :: ' ' :: inspect j) :: inspectMembers ms

end

end QueryLoom.Json
