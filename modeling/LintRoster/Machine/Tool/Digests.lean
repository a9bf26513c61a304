import LintRoster.Machine.Tool.Input

/-!
# Digests

Tools that write digests of their inputs. A message is filled up to whole blocks of sixty-four bytes;
each block is mixed into some words of thirty-two bits, which are the digest in the end.
-/

namespace LintRoster.Machine.Tool

namespace Digest

/-- How bytes are put together to words. -/
inductive Order where
  | lowFirst
  | highFirst
deriving DecidableEq

/-- The bytes of a number, the lowest first. -/
def lowBytes : Nat → Nat → List UInt8
  | 0, _ => []
  | count + 1, n => UInt8.ofNat (n % 256) :: lowBytes count (n / 256)

/-- The bytes of a number. -/
def Order.bytes (o : Order) (count n : Nat) : List UInt8 :=
  if o == .lowFirst then lowBytes count n else (lowBytes count n).reverse

/-- The number of bytes. -/
def Order.number (o : Order) (bytes : List UInt8) : Nat :=
  let low := if o == .lowFirst then bytes else bytes.reverse
  low.foldr (fun b n => n * 256 + b.toNat) 0

/-- The words of bytes. -/
def Order.words (o : Order) : Nat → List UInt8 → List UInt32
  | 0, _ => []
  | count + 1, bytes => UInt32.ofNat (o.number (bytes.take 4)) :: o.words count (bytes.drop 4)

/-- A message filled up to whole blocks, with its length at the end. -/
def Order.filled (o : Order) (bytes : List UInt8) : List UInt8 :=
  let zeros := (119 - bytes.length % 64) % 64
  bytes ++ 128 :: List.replicate zeros 0 ++ o.bytes 8 (bytes.length * 8)

/-- How words are mixed. -/
structure Method where
  order : Order
  start : List UInt32
  mix : List UInt32 → Array UInt32 → List UInt32

/-- Mixes blocks into words. -/
def Method.mixAll (m : Method) : Nat → List UInt8 → List UInt32 → List UInt32
  | 0, _, words => words
  | blocks + 1, bytes, words =>
    let mixed := m.mix words (m.order.words 16 bytes).toArray
    m.mixAll blocks (bytes.drop 64) ((words.zip mixed).map fun p => p.1 + p.2)

/-- The digest of bytes in hexadecimal digits. -/
def Method.digest (m : Method) (bytes : List UInt8) : String :=
  let filled := m.order.filled bytes
  let words := m.mixAll (filled.length / 64) filled m.start
  let digits (b : UInt8) : List Char :=
    let ds := Nat.toDigits 16 b.toNat
    List.replicate (2 - ds.length) '0' ++ ds
  String.ofList ((words.flatMap fun w => m.order.bytes 4 w.toNat).flatMap digits)

/-- The bits of a word moved round to the left. -/
def rotateLeft (w : UInt32) (n : Nat) : UInt32 :=
  let n := UInt32.ofNat n
  (w <<< n) ||| (w >>> (32 - n))

/-- The bits of a word moved round to the right. -/
def rotateRight (w : UInt32) (n : Nat) : UInt32 :=
  rotateLeft w (32 - n)

/-- The first word where a bit is set, the second one where it is not. -/
def choose (c a b : UInt32) : UInt32 :=
  (c &&& a) ||| (~~~c &&& b)

/-- The bits that most of three words have. -/
def majority (a b c : UInt32) : UInt32 :=
  (a &&& b) ||| (a &&& c) ||| (b &&& c)

/-- The word at a place of an array. -/
def wordAt (ws : Array UInt32) (n : Nat) : UInt32 :=
  ws.getD n 0

/-! ## Four words -/

/-- How far words are moved round, for each quarter of the steps. -/
def fourShifts : Array (List Nat) :=
  #[[7, 12, 17, 22], [5, 9, 14, 20], [4, 11, 16, 23], [6, 10, 15, 21]]

/-- The constants of the steps: the digits of sines behind the point. -/
def fourConstants : Array UInt32 :=
  #[0xd76aa478, 0xe8c7b756, 0x242070db, 0xc1bdceee, 0xf57c0faf, 0x4787c62a, 0xa8304613,
    0xfd469501, 0x698098d8, 0x8b44f7af, 0xffff5bb1, 0x895cd7be, 0x6b901122, 0xfd987193,
    0xa679438e, 0x49b40821, 0xf61e2562, 0xc040b340, 0x265e5a51, 0xe9b6c7aa, 0xd62f105d,
    0x02441453, 0xd8a1e681, 0xe7d3fbc8, 0x21e1cde6, 0xc33707d6, 0xf4d50d87, 0x455a14ed,
    0xa9e3e905, 0xfcefa3f8, 0x676f02d9, 0x8d2a4c8a, 0xfffa3942, 0x8771f681, 0x6d9d6122,
    0xfde5380c, 0xa4beea44, 0x4bdecfa9, 0xf6bb4b60, 0xbebfbc70, 0x289b7ec6, 0xeaa127fa,
    0xd4ef3085, 0x04881d05, 0xd9d4d039, 0xe6db99e5, 0x1fa27cf8, 0xc4ac5665, 0xf4292244,
    0x432aff97, 0xab9423a7, 0xfc93a039, 0x655b59c3, 0x8f0ccc92, 0xffeff47d, 0x85845dd1,
    0x6fa87e4f, 0xfe2ce6e0, 0xa3014314, 0x4e0811a1, 0xf7537e82, 0xbd3af235, 0x2ad7d2bb,
    0xeb86d391]

/-- A step with four words. -/
def fourStep (block : Array UInt32) (ws : List UInt32) (i : Nat) : List UInt32 :=
  match ws with
  | [a, b, c, d] =>
    let (mixed, place) :=
      match i / 16 with
      | 0 => (choose b c d, i)
      | 1 => (choose d b c, (5 * i + 1) % 16)
      | 2 => (b ^^^ c ^^^ d, (3 * i + 5) % 16)
      | _ => (c ^^^ (b ||| ~~~d), (7 * i) % 16)
    let shift := (fourShifts.getD (i / 16) []).getD (i % 4) 0
    let sum := a + mixed + wordAt fourConstants i + wordAt block place
    [d, b + rotateLeft sum shift, b, c]
  | ws => ws

/-- The method with four words. -/
def four : Method where
  order := .lowFirst
  start := [0x67452301, 0xefcdab89, 0x98badcfe, 0x10325476]
  mix ws block := (List.range 64).foldl (fourStep block) ws

/-! ## Five words -/

/-- A block with words that are made from those before them. -/
def fiveSchedule (block : Array UInt32) : Array UInt32 :=
  (List.range 64).foldl (fun (ws : Array UInt32) k =>
    let n := k + 16
    let back (d : Nat) : UInt32 := wordAt ws (n - d)
    ws.push (rotateLeft (back 3 ^^^ back 8 ^^^ back 14 ^^^ back 16) 1)) block

/-- A step with five words. -/
def fiveStep (schedule : Array UInt32) (ws : List UInt32) (i : Nat) : List UInt32 :=
  match ws with
  | [a, b, c, d, e] =>
    let (mixed, constant) : UInt32 × UInt32 :=
      match i / 20 with
      | 0 => (choose b c d, 0x5a827999)
      | 1 => (b ^^^ c ^^^ d, 0x6ed9eba1)
      | 2 => (majority b c d, 0x8f1bbcdc)
      | _ => (b ^^^ c ^^^ d, 0xca62c1d6)
    [rotateLeft a 5 + mixed + e + constant + wordAt schedule i, a, rotateLeft b 30, c, d]
  | ws => ws

/-- The method with five words. -/
def five : Method where
  order := .highFirst
  start := [0x67452301, 0xefcdab89, 0x98badcfe, 0x10325476, 0xc3d2e1f0]
  mix ws block := (List.range 80).foldl (fiveStep (fiveSchedule block)) ws

/-! ## Eight words -/

/-- The constants of the steps: the digits of cubic roots of primes behind the point. -/
def eightConstants : Array UInt32 :=
  #[0x428a2f98, 0x71374491, 0xb5c0fbcf, 0xe9b5dba5, 0x3956c25b, 0x59f111f1, 0x923f82a4,
    0xab1c5ed5, 0xd807aa98, 0x12835b01, 0x243185be, 0x550c7dc3, 0x72be5d74, 0x80deb1fe,
    0x9bdc06a7, 0xc19bf174, 0xe49b69c1, 0xefbe4786, 0x0fc19dc6, 0x240ca1cc, 0x2de92c6f,
    0x4a7484aa, 0x5cb0a9dc, 0x76f988da, 0x983e5152, 0xa831c66d, 0xb00327c8, 0xbf597fc7,
    0xc6e00bf3, 0xd5a79147, 0x06ca6351, 0x14292967, 0x27b70a85, 0x2e1b2138, 0x4d2c6dfc,
    0x53380d13, 0x650a7354, 0x766a0abb, 0x81c2c92e, 0x92722c85, 0xa2bfe8a1, 0xa81a664b,
    0xc24b8b70, 0xc76c51a3, 0xd192e819, 0xd6990624, 0xf40e3585, 0x106aa070, 0x19a4c116,
    0x1e376c08, 0x2748774c, 0x34b0bcb5, 0x391c0cb3, 0x4ed8aa4a, 0x5b9cca4f, 0x682e6ff3,
    0x748f82ee, 0x78a5636f, 0x84c87814, 0x8cc70208, 0x90befffa, 0xa4506ceb, 0xbef9a3f7,
    0xc67178f2]

/-- A block with words that are made from those before them. -/
def eightSchedule (block : Array UInt32) : Array UInt32 :=
  (List.range 48).foldl (fun (ws : Array UInt32) k =>
    let n := k + 16
    let back (d : Nat) : UInt32 := wordAt ws (n - d)
    let low := rotateRight (back 15) 7 ^^^ rotateRight (back 15) 18 ^^^ (back 15 >>> 3)
    let high := rotateRight (back 2) 17 ^^^ rotateRight (back 2) 19 ^^^ (back 2 >>> 10)
    ws.push (back 16 + low + back 7 + high)) block

/-- A step with eight words. -/
def eightStep (schedule : Array UInt32) (ws : List UInt32) (i : Nat) : List UInt32 :=
  match ws with
  | [a, b, c, d, e, f, g, h] =>
    let high := rotateRight e 6 ^^^ rotateRight e 11 ^^^ rotateRight e 25
    let low := rotateRight a 2 ^^^ rotateRight a 13 ^^^ rotateRight a 22
    let first := h + high + choose e f g + wordAt eightConstants i + wordAt schedule i
    let second := low + majority a b c
    [first + second, a, b, c, d + first, e, f, g]
  | ws => ws

/-- The method with eight words. -/
def eight : Method where
  order := .highFirst
  start :=
    [0x6a09e667, 0xbb67ae85, 0x3c6ef372, 0xa54ff53a, 0x510e527f, 0x9b05688c, 0x1f83d9ab, 0x5be0cd19]
  mix ws block := (List.range 64).foldl (eightStep (eightSchedule block)) ws

end Digest

/-- Writes the digests of inputs. -/
def digests (m : Digest.Method) (title : String) : Tool := fun _ call =>
  withOptions call {
      letters := "bctz"
      names := [("binary", .nothing, 'b'), ("check", .nothing, 'c'), ("text", .nothing, 't'),
        ("tag", .nothing, 'T'), ("zero", .nothing, 'z')] } 1
    fun given => do
      let one (name : String) : Work Nat := do
        match ← slurp name with
        | .error fault =>
          complain call (Quoted.name name ++ ": " ++ fault.summary)
          return 1
        | .ok bytes =>
          let digest := m.digest bytes
          if given.has 'T' then say call (title ++ " (" ++ name ++ ") = " ++ digest ++ "\n") 0
          else
            let sign := if given.last? ['b', 't'] == some 'b' then " *" else "  "
            say call (digest ++ sign ++ name ++ "\n") 0
      let verify (name : String) : Work Nat := do
        match ← slurp name with
        | .error fault =>
          complain call (Quoted.name name ++ ": " ++ fault.summary)
          return 1
        | .ok bytes =>
          let size := (m.digest []).length
          let entries := ((linesOf bytes).map lineText).filterMap fun line =>
            let cs := line.toList
            if cs.length ≤ size + 2 || cs[size]? != some ' ' then none
            else some (String.ofList (cs.take size), String.ofList (cs.drop (size + 2)))
          if entries.isEmpty then
            complain call (Quoted.name name ++ ": no properly formatted checksum lines found")
            return 1
          let checkEntry (entry : String × String) : Work (Option Bool) := do
            match ← slurp entry.2 with
            | .error fault =>
              complain call (Quoted.name entry.2 ++ ": " ++ fault.summary)
              discard (writeTo 1 (entry.2 ++ ": FAILED open or read\n"))
              return none
            | .ok bytes =>
              let isSame := m.digest bytes == entry.1
              discard (writeTo 1 (entry.2 ++ (if isSame then ": OK\n" else ": FAILED\n")))
              return some isSame
          let results ← entries.mapM checkEntry
          let unread := (results.filter (· == none)).length
          let wrong := (results.filter (· == some false)).length
          if unread == 1 then complain call "WARNING: 1 listed file could not be read"
          else if 1 < unread then
            complain call ("WARNING: " ++ toString unread ++ " listed files could not be read")
          if wrong == 1 then complain call "WARNING: 1 computed checksum did NOT match"
          else if 1 < wrong then
            complain call ("WARNING: " ++ toString wrong ++ " computed checksums did NOT match")
          return if unread + wrong == 0 then 0 else 1
      forEach (if given.has 'c' then verify else one) (inputs given.operands)

/-- Writes digests of four words. -/
def md5sum : Tool := digests Digest.four "MD5"

/-- Writes digests of five words. -/
def sha1sum : Tool := digests Digest.five "SHA1"

/-- Writes digests of eight words. -/
def sha256sum : Tool := digests Digest.eight "SHA256"

end LintRoster.Machine.Tool
