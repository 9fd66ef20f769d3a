import EventFeed.Json.Number
import EventFeed.Json.Quoted

/-!
# Printing JSON

The compact form: no blanks, and members in the order in which they stand.
-/

namespace EventFeed.Json

mutual

def render : Json → List Char
  | .null => ['n', 'u', 'l', 'l']
  | .bool true => ['t', 'r', 'u', 'e']
  | .bool false => ['f', 'a', 'l', 's', 'e']
  | .num n => numberText n
  | .str s => quoted s.toList
  | .arr items => '[' :: (renderItems items ++ [']'])
  | .obj members => '{' :: (renderMembers members ++ ['}'])

def renderItems : List Json → List Char
  | [] => []
  | [j] => render j
  | j :: js => render j ++ ',' :: renderItems js

def renderMembers : List (String × Json) → List Char
  | [] => []
  | [(k, j)] => quoted k.toList ++ ':' :: render j
  | (k, j) :: ms => quoted k.toList ++ ':' :: (render j ++ ',' :: renderMembers ms)

end

def print (j : Json) : String := String.ofList j.render

end EventFeed.Json
