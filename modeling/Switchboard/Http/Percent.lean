import Switchboard.Hex

/-!
The characters of methods, header names and header values, and percent encoding: characters outside
ASCII and those that a place in an address keeps for itself are written as the bytes of their UTF-8
form, each as a percent sign and two digits.
-/
namespace Switchboard.Http

def isTokenChar (c : Char) : Bool :=
  c.isAlphanum
    || ['!', '#', '$', '%', '&', '\'', '*', '+', '-', '.', '^', '_', '\x60', '|', '~'].contains c

def isToken (text : String) : Bool := !text.isEmpty && text.toList.all isTokenChar

def isFieldChar (c : Char) : Bool := c == '\t' || (32 ≤ c.toNat && c.toNat != 127)

def isFieldValue (text : String) : Bool := text.toList.all isFieldChar

namespace Percent

def byte (b : UInt8) : List Char :=
  ['%', (Hex.digit (b.toNat / 16)).toUpper, (Hex.digit (b.toNat % 16)).toUpper]

def isControl (c : Char) : Bool := c.toNat < 32 || 126 < c.toNat

def isReservedInFragment (c : Char) : Bool :=
  isControl c || [' ', '"', '<', '>', '\x60'].contains c

def isReservedInPath (c : Char) : Bool :=
  isReservedInFragment c || ['#', '?', '\x7b', '\x7d'].contains c

def isReservedInUser (c : Char) : Bool :=
  isReservedInPath c || ['/', ':', ';', '=', '@', '[', '\\', ']', '^', '|'].contains c

def isReservedInQuery (special : Bool) (c : Char) : Bool :=
  isControl c || [' ', '"', '#', '<', '>'].contains c || (special && c == '\'')

def encodeChar (reserved : Char → Bool) (c : Char) : List Char :=
  if reserved c then (String.utf8EncodeChar c).flatMap byte else [c]

def encode (reserved : Char → Bool) (cs : List Char) : List Char := cs.flatMap (encodeChar reserved)

/-- The bytes of a text in which a percent sign with two digits stands for a byte. -/
def decode : List Char → List UInt8
  | [] => []
  | '%' :: a :: b :: rest =>
    match Hex.value? a, Hex.value? b with
    | some high, some low => UInt8.ofNat (16 * high + low) :: decode rest
    | _, _ => String.utf8EncodeChar '%' ++ decode (a :: b :: rest)
  | c :: rest => String.utf8EncodeChar c ++ decode rest

def decodeText? (cs : List Char) : Option (List Char) :=
  (String.fromUTF8? ⟨(decode cs).toArray⟩).map String.toList

end Percent
end Switchboard.Http
