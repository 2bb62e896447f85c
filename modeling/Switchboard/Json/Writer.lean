import Switchboard.Json.Text
import Switchboard.Json.Value

/-!
Writes a value compactly: no blanks, fields in their order, strings escaped as `Text.encode` says.
-/
namespace Switchboard.Json

def integer (n : Int) : List Char :=
  if n < 0 then '-' :: Decimal.digits n.natAbs else Decimal.digits n.natAbs

def Number.render : Number → List Char
  | .int n => integer n
  | .double d => d.render

mutual

def Value.chars : Value → List Char
  | .null => ['n', 'u', 'l', 'l']
  | .bool true => ['t', 'r', 'u', 'e']
  | .bool false => ['f', 'a', 'l', 's', 'e']
  | .number n => n.render
  | .string s => Text.quoted s
  | .array [] => ['[', ']']
  | .array (item :: rest) => '[' :: (Value.chars item ++ Value.charsOfItems rest)
  | .object [] => ['\x7b', '\x7d']
  | .object ((name, value) :: rest) =>
    '\x7b' :: (Text.quoted name ++ ':' :: (Value.chars value ++ Value.charsOfFields rest))

def Value.charsOfItems : List Value → List Char
  | [] => [']']
  | item :: rest => ',' :: (Value.chars item ++ Value.charsOfItems rest)

def Value.charsOfFields : List (String × Value) → List Char
  | [] => ['\x7d']
  | (name, value) :: rest =>
    ',' :: (Text.quoted name ++ ':' :: (Value.chars value ++ Value.charsOfFields rest))

end

def Value.render (value : Value) : String := String.ofList value.chars

end Switchboard.Json
