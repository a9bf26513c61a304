import LintRoster.Text.Bytes

/-!
# Letters of bytes

Bytes as a list of letters, of which each is a character of UTF-8 or a stray byte. Nothing is lost:
`Letters.toBytes` gives the bytes back. Stray bytes are held as characters of a private area.
-/

namespace LintRoster.Letters

/-- The first character of the area for stray bytes. -/
def strayBase : Nat :=
  0x10FF00

/-- The letter of a stray byte. -/
def stray (b : UInt8) : Char :=
  Char.ofNat (strayBase + b.toNat)

/-- Whether a letter is a stray byte. -/
def isStray (c : Char) : Bool :=
  strayBase ≤ c.toNat && c.toNat < strayBase + 256

/-- The character at the beginning of bytes, and how many of them it takes. -/
def first? (bytes : List UInt8) : Option (Char × Nat) :=
  [1, 2, 3, 4].findSome? fun n =>
    if bytes.length < n then none
    else
      match Utf8.decodeFrom? none (bytes.take n) with
      | some [c] => some (c, n)
      | _ => none

/-- The letters of bytes. Those of the bytes in front come last first. -/
def ofBytesFrom : Nat → List Char → List UInt8 → List Char
  | 0, done, _ => done.reverse
  | _, done, [] => done.reverse
  | fuel + 1, done, b :: bs =>
    if b < 128 then ofBytesFrom fuel (Bytes.charOf b :: done) bs
    else
      match first? ((b :: bs).take 4) with
      | some (c, n) => ofBytesFrom fuel (c :: done) ((b :: bs).drop n)
      | none => ofBytesFrom fuel (stray b :: done) bs

/-- The letters of bytes. -/
def ofBytes (bytes : List UInt8) : List Char :=
  ofBytesFrom (bytes.length + 1) [] bytes

/-- The letters of a byte text. -/
def ofText (s : String) : List Char :=
  ofBytes (Bytes.toBytes s)

/-- The bytes of a letter. -/
def bytesOf (c : Char) : List UInt8 :=
  if c.toNat < 128 then [Bytes.byteOf c]
  else if isStray c then [UInt8.ofNat (c.toNat - strayBase)]
  else Utf8.encode (String.singleton c)

/-- The bytes of letters. -/
def toBytes (cs : List Char) : List UInt8 :=
  cs.flatMap bytesOf

end LintRoster.Letters
