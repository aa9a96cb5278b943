/-! A 64-bit fingerprint of a source, by which a result remembers the text it was computed on. Bytes
are folded in blocks of sixteen through a widening multiplication; all sums and products are taken
modulo 2^64. -/
namespace StoryScript

abbrev Fingerprint := UInt64

namespace Fingerprint

def firstSeed : UInt64 := 0x243f6a8885a308d3
def secondSeed : UInt64 := 0x13198a2e03707344
def blockSeed : UInt64 := 0xa4093822299f31d0
def multiplier : UInt64 := 0xf1357aea2e62a9c5

/-- The two halves of the 128-bit product, combined. -/
def mix (x y : UInt64) : UInt64 :=
  let product := x.toNat * y.toNat
  product.toUInt64 ^^^ (product / 0x10000000000000000).toUInt64

/-- The `count` bytes from `start` on as a number, the least significant first. -/
def littleEndian (bytes : ByteArray) (start : Nat) : Nat → UInt64
  | 0 => 0
  | count + 1 =>
    let byte := if h : start < bytes.size then bytes[start].toUInt64 else 0
    byte ||| (littleEndian bytes (start + 1) count <<< 8)

/-- Folds `count` blocks of sixteen bytes from `start` on. -/
def foldBlocks (bytes : ByteArray) (start : Nat) (state : UInt64 × UInt64) :
    Nat → UInt64 × UInt64
  | 0 => state
  | count + 1 =>
    let (s0, s1) := state
    let next := mix (s0 ^^^ littleEndian bytes start 8)
      (blockSeed ^^^ littleEndian bytes (start + 8) 8)
    foldBlocks bytes (start + 16) (s1, next) count

def ofBytes (bytes : ByteArray) : UInt64 :=
  let size := bytes.size
  let (s0, s1) :=
    if size > 16 then
      let (s0, s1) := foldBlocks bytes 0 (firstSeed, secondSeed) ((size - 1) / 16)
      (s0 ^^^ littleEndian bytes (size - 16) 8, s1 ^^^ littleEndian bytes (size - 8) 8)
    else if size ≥ 8 then
      (firstSeed ^^^ littleEndian bytes 0 8, secondSeed ^^^ littleEndian bytes (size - 8) 8)
    else if size ≥ 4 then
      (firstSeed ^^^ littleEndian bytes 0 4, secondSeed ^^^ littleEndian bytes (size - 4) 4)
    else if size ≥ 1 then
      (firstSeed ^^^ littleEndian bytes 0 1,
        secondSeed ^^^
          ((littleEndian bytes (size - 1) 1 <<< 8) ||| littleEndian bytes (size / 2) 1))
    else (firstSeed, secondSeed)
  mix s0 s1 ^^^ size.toUInt64

def rotateLeft (x : UInt64) (bits : UInt64) : UInt64 := (x <<< bits) ||| (x >>> (64 - bits))

/-- The fingerprint of a text: its bytes and their number, spread over the word. -/
def ofText (text : String) : Fingerprint :=
  let bytes := text.toUTF8
  rotateLeft ((ofBytes bytes * multiplier + bytes.size.toUInt64) * multiplier) 26

/-- Hexadecimal, in small letters and without leading zeros. -/
def toHex (fingerprint : Fingerprint) : String :=
  "0x" ++ String.ofList (Nat.toDigits 16 fingerprint.toNat)

end Fingerprint

end StoryScript
