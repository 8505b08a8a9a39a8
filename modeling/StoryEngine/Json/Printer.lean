import StoryEngine.Json.Text
import StoryEngine.Json.Value

/-! # Writing JSON

The compact form has no blanks at all. The indented form puts every element and every member on
a line of its own, two blanks deeper than its container; empty containers stay on one line.
-/

namespace StoryEngine.Json

set_option autoImplicit false

mutual

def compactChars : Json → List Char
  | null => "null".toList
  | bool true => "true".toList
  | bool false => "false".toList
  | number n => (toString n).toList
  | string s => quote s
  | array elements => '[' :: compactElements elements ++ [']']
  | object members => '{' :: compactMembers members ++ ['}']
  | foreign source _ => source

def compactElements : List Json → List Char
  | [] => []
  | [v] => compactChars v
  | v :: rest => compactChars v ++ ',' :: compactElements rest

def compactMembers : List (String × Json) → List Char
  | [] => []
  | [(key, v)] => quote key ++ ':' :: compactChars v
  | (key, v) :: rest => quote key ++ ':' :: compactChars v ++ ',' :: compactMembers rest

end

def newLine (depth : Nat) : List Char := '\n' :: List.replicate (2 * depth) ' '

mutual

def indentedChars (depth : Nat) : Json → List Char
  | null => "null".toList
  | bool true => "true".toList
  | bool false => "false".toList
  | number n => (toString n).toList
  | string s => quote s
  | array [] => ['[', ']']
  | array elements => '[' :: indentedElements (depth + 1) elements ++ newLine depth ++ [']']
  | object [] => ['{', '}']
  | object members => '{' :: indentedMembers (depth + 1) members ++ newLine depth ++ ['}']
  | foreign source _ => source

def indentedElements (depth : Nat) : List Json → List Char
  | [] => []
  | [v] => newLine depth ++ indentedChars depth v
  | v :: rest => newLine depth ++ indentedChars depth v ++ ',' :: indentedElements depth rest

def indentedMembers (depth : Nat) : List (String × Json) → List Char
  | [] => []
  | [(key, v)] => newLine depth ++ quote key ++ ':' :: ' ' :: indentedChars depth v
  | (key, v) :: rest =>
    newLine depth ++ quote key ++ ':' :: ' ' :: indentedChars depth v ++
      ',' :: indentedMembers depth rest

end

def compact (v : Json) : String := String.ofList (compactChars v)

def indented (v : Json) : String := String.ofList (indentedChars 0 v)

end StoryEngine.Json
