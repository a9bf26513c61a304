import LintRoster.Text.Utf8

/-!
# Texts of bytes

A shell knows no characters beyond bytes. A byte text holds each byte as the character with its
number, so lengths count bytes, and bytes that are not UTF-8 keep their identity. `Bytes.ofText` and
`Bytes.toText` change between byte texts and other texts.
-/

namespace LintRoster.Bytes

/-- The character of a byte. -/
def charOf (b : UInt8) : Char :=
  Char.ofNat b.toNat

/-- The byte of a character of a byte text. -/
def byteOf (c : Char) : UInt8 :=
  UInt8.ofNat c.toNat

/-- The byte text of bytes. -/
def ofBytes (bytes : List UInt8) : String :=
  String.ofList (bytes.map charOf)

/-- The bytes of a byte text. -/
def toBytes (s : String) : List UInt8 :=
  s.toList.map byteOf

/-- The byte text of a text. -/
def ofText (s : String) : String :=
  ofBytes (Utf8.encode s)

/-- The text of a byte text. What is not UTF-8 is replaced. -/
def toText (s : String) : String :=
  Utf8.decodeLossy (toBytes s)

end LintRoster.Bytes
