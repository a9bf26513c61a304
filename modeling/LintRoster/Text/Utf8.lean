/-!
# Bytes as UTF-8 text

`Utf8.decode?` reads bytes that are UTF-8 throughout. `Utf8.decodeLossy` reads any bytes: each
maximal invalid part becomes one replacement character. A part is cut at the first byte that no
character can have in that place, and that byte is read anew.
-/

namespace LintRoster.Utf8

/-- A character that is not finished: its bits so far, the least and the greatest value that the
next byte may have, and how many bytes come after that one. -/
structure Pending where
  bits : Nat
  low : Nat
  high : Nat
  more : Nat
deriving DecidableEq, Repr

/-- What one byte at the start of a character means. -/
inductive Lead where
  | char (c : Char)
  | pending (p : Pending)
  | invalid
deriving DecidableEq, Repr

/-- The reading of a byte at the start of a character. -/
def lead (b : Nat) : Lead :=
  if b < 0x80 then .char (Char.ofNat b)
  else if b < 0xC2 then .invalid
  else if b < 0xE0 then .pending ⟨b - 0xC0, 0x80, 0xBF, 0⟩
  else if b = 0xE0 then .pending ⟨0, 0xA0, 0xBF, 1⟩
  else if b = 0xED then .pending ⟨0xD, 0x80, 0x9F, 1⟩
  else if b < 0xF0 then .pending ⟨b - 0xE0, 0x80, 0xBF, 1⟩
  else if b = 0xF0 then .pending ⟨0, 0x90, 0xBF, 2⟩
  else if b < 0xF4 then .pending ⟨b - 0xF0, 0x80, 0xBF, 2⟩
  else if b = 0xF4 then .pending ⟨4, 0x80, 0x8F, 2⟩
  else .invalid

/-- A character with one more byte. The byte is none it can have, or it finishes the character, or
it leaves it pending. -/
def Pending.push (p : Pending) (b : Nat) : Lead :=
  if b < p.low || p.high < b then .invalid
  else
    let bits := p.bits * 0x40 + (b - 0x80)
    match p.more with
    | 0 => .char (Char.ofNat bits)
    | more + 1 => .pending ⟨bits, 0x80, 0xBF, more⟩

/-- The text of bytes that are UTF-8 throughout, after the character `open?` that is not yet
finished. -/
def decodeFrom? (pending : Option Pending) : List UInt8 → Option (List Char)
  | [] => if pending.isNone then some [] else none
  | b :: bs =>
    match (match pending with
      | none => lead b.toNat
      | some p => p.push b.toNat) with
    | .char c => (decodeFrom? none bs).map (c :: ·)
    | .pending p => decodeFrom? (some p) bs
    | .invalid => none

/-- The text that the bytes encode, if they are UTF-8 throughout. -/
def decode? (bytes : List UInt8) : Option String :=
  (decodeFrom? none bytes).map String.ofList

/-- Stands for a part of the bytes that is not UTF-8. -/
def replacement : Char := '\uFFFD'

/-- The characters of arbitrary bytes, after the character that is not yet finished. -/
def decodeLossyFrom (pending : Option Pending) : List UInt8 → List Char
  | [] => if pending.isNone then [] else [replacement]
  | b :: bs =>
    match pending with
    | none => start b bs
    | some p =>
      match p.push b.toNat with
      | .char c => c :: decodeLossyFrom none bs
      | .pending q => decodeLossyFrom (some q) bs
      | .invalid => replacement :: start b bs
where
  /-- Reads a byte at the start of a character. -/
  start (b : UInt8) (bs : List UInt8) : List Char :=
    match lead b.toNat with
    | .char c => c :: decodeLossyFrom none bs
    | .pending p => decodeLossyFrom (some p) bs
    | .invalid => replacement :: decodeLossyFrom none bs

/-- The text of arbitrary bytes, with one replacement character for each maximal invalid part. -/
def decodeLossy (bytes : List UInt8) : String :=
  String.ofList (decodeLossyFrom none bytes)

/-- The bytes of a text. -/
def encode (s : String) : List UInt8 :=
  s.toUTF8.toList

end LintRoster.Utf8
