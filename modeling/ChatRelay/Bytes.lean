/-!
# Bytes

Byte strings as lists, and the two bytes that matter to a line. A text is sent as its UTF-8 bytes.
-/

namespace ChatRelay

/-- A byte string. -/
abbrev Bytes := List UInt8

namespace Bytes

/-- The byte that ends a line. -/
def newline : UInt8 := 10

/-- The byte that may stand before the end of a line. -/
def carriageReturn : UInt8 := 13

/-- The UTF-8 bytes of a text. -/
def ofText (text : String) : Bytes := text.toUTF8.data.toList

/-- The text that these bytes spell in UTF-8, if they do. -/
def toText? (bytes : Bytes) : Option String := String.fromUTF8? ⟨bytes.toArray⟩

end Bytes

/-- The largest size that a machine word holds; sizes saturate there. -/
def maxSize : Nat := 0xFFFFFFFFFFFFFFFF

end ChatRelay
