/-
**Identifiers of instances.**

An instance is known to the outside by sixteen random bytes, written as hexadecimal digits in groups
of eight, four, four, four and twelve. Six of the bits are fixed: they say that the rest is random.

* `identifierText`: the identifier that bytes stand for.
-/

namespace InstanceHost

/-- The hexadecimal digits of a byte, in lower case. -/
def byteDigits (byte : UInt8) : List Char :=
  [Nat.digitChar (byte.toNat / 16), Nat.digitChar (byte.toNat % 16)]

/-- Random bytes with the bits that mark them as random. -/
def markRandom (bytes : List UInt8) : List UInt8 :=
  (bytes.modify 6 fun byte => (byte &&& 0x0f) ||| 0x40).modify 8 fun byte =>
    (byte &&& 0x3f) ||| 0x80

/-- Digits cut into groups of given lengths. -/
def grouped : List Nat → List Char → List (List Char)
  | [], _ => []
  | count :: rest, digits => digits.take count :: grouped rest (digits.drop count)

/-- **The identifier that bytes stand for.** -/
def identifierText (bytes : List UInt8) : String :=
  String.intercalate "-"
    ((grouped [8, 4, 4, 4, 12] ((markRandom bytes).flatMap byteDigits)).map String.ofList)

end InstanceHost
