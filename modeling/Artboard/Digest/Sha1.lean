/-!
# SHA-1

The digest of a byte sequence: padding to whole blocks of 64 bytes, then eighty
rounds on five words for each block.
-/
namespace Artboard.Digest

def rotateLeft (word : UInt32) (count : UInt32) : UInt32 :=
  (word <<< count) ||| (word >>> (32 - count))

structure Sha1State where
  a : UInt32
  b : UInt32
  c : UInt32
  d : UInt32
  e : UInt32

namespace Sha1State

def start : Sha1State := ⟨0x67452301, 0xEFCDAB89, 0x98BADCFE, 0x10325476, 0xC3D2E1F0⟩

def add (first second : Sha1State) : Sha1State :=
  ⟨first.a + second.a, first.b + second.b, first.c + second.c, first.d + second.d,
    first.e + second.e⟩

/-- One of the eighty rounds, on a word of the schedule. -/
def round (state : Sha1State) (index : Nat) (word : UInt32) : Sha1State :=
  let mixed : UInt32 × UInt32 :=
    if index < 20 then ((state.b &&& state.c) ||| (~~~state.b &&& state.d), 0x5A827999)
    else if index < 40 then (state.b ^^^ state.c ^^^ state.d, 0x6ED9EBA1)
    else if index < 60 then
      ((state.b &&& state.c) ||| (state.b &&& state.d) ||| (state.c &&& state.d), 0x8F1BBCDC)
    else (state.b ^^^ state.c ^^^ state.d, 0xCA62C1D6)
  ⟨rotateLeft state.a 5 + mixed.1 + state.e + mixed.2 + word, state.a, rotateLeft state.b 30,
    state.c, state.d⟩

end Sha1State

/-- The length in bits as eight bytes, high byte first. -/
def lengthBytes (count : Nat) : List UInt8 :=
  (List.range 8).map fun index => UInt8.ofNat ((count * 8) >>> (8 * (7 - index)))

def padBytes (bytes : List UInt8) : List UInt8 :=
  let zeros := (119 - bytes.length % 64) % 64
  bytes ++ 0x80 :: List.replicate zeros 0 ++ lengthBytes bytes.length

/-- Four bytes to a word, high byte first. -/
def wordsOfBytes : List UInt8 → List UInt32
  | a :: b :: c :: d :: rest =>
    ((a.toUInt32 <<< 24) ||| (b.toUInt32 <<< 16) ||| (c.toUInt32 <<< 8) ||| d.toUInt32) ::
      wordsOfBytes rest
  | _ => []

/-- The eighty words made from the sixteen of a block. -/
def schedule (block : Array UInt32) : Array UInt32 :=
  (List.range 64).foldl (fun words offset =>
    let index := offset + 16
    words.push (rotateLeft (words.getD (index - 3) 0 ^^^ words.getD (index - 8) 0 ^^^
      words.getD (index - 14) 0 ^^^ words.getD (index - 16) 0) 1)) block

def sha1Block (state : Sha1State) (block : Array UInt32) : Sha1State :=
  let words := schedule block
  state.add ((List.range 80).foldl (fun inner index => inner.round index (words.getD index 0))
    state)

def sha1 (bytes : List UInt8) : Sha1State :=
  let words := (wordsOfBytes (padBytes bytes)).toArray
  (List.range (words.size / 16)).foldl
    (fun state index => sha1Block state (words.extract (index * 16) (index * 16 + 16))) .start

/-- Eight hexadecimal digits, the high ones first. -/
def hexWord (word : UInt32) : List Char :=
  let digits := Nat.toDigits 16 word.toNat
  List.replicate (8 - digits.length) '0' ++ digits

/-- The digest as forty hexadecimal digits. -/
def sha1Hex (bytes : List UInt8) : List Char :=
  let state := sha1 bytes
  [state.a, state.b, state.c, state.d, state.e].flatMap hexWord

end Artboard.Digest
