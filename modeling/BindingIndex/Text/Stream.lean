import BindingIndex.Text.Blank
import BindingIndex.Text.Utf8

/-!
# Texts that are decoded as they are read

The bytes of a file are decoded in chunks. A chunk is sized after what is wanted and after the bytes
that a character took in the chunk before; a sequence that its end cuts short waits for the next
one, and so does a carriage return, since a line feed may follow. Positions in a fault count from
the first byte of its chunk, or from the first one that waited.

* `Stream`: the characters before the first fault, with line ends unified.
* `Stream.ofBytes`: the stream of the bytes of a file.
-/

namespace BindingIndex.Text

structure Stream where
  chars : List Char
  fault : Option Utf8.Fault
  deriving DecidableEq, Repr

namespace Stream

/-- The number of characters that a reader asks for at a time. -/
def blockSize : Nat := 4096

def leastChunk : Nat := 8192

structure Yield where
  bytes : Nat
  chars : Nat

/-- The number of bytes of a chunk from which `wanted` characters are wanted. -/
def chunkSize (last : Yield) (wanted : Nat) : Nat :=
  if last.chars = 0 then max leastChunk wanted
  else
    let ratio := Float.ofNat last.bytes / Float.ofNat last.chars
    let estimate := (if ratio < 1.0 then 1.0 else ratio) * Float.ofNat wanted
    max leastChunk estimate.toUInt64.toNat

/-- Can the bytes at the end of a chunk still be judged later, given their fault? Two bytes of a
code point that is half of a pair are, too. -/
def waits (f : Utf8.Fault) : List UInt8 → Bool
  | [0xED, b] => 0xA0 ≤ b && b ≤ 0xBF
  | _ => f.reason = .unexpectedEnd

/-- Decode a chunk: its text and the bytes of a sequence that its end cuts short. -/
def decodeChunk (chunk : List UInt8) : Except Utf8.Fault (List Char × List UInt8) :=
  match Utf8.decode chunk with
  | .ok text => .ok (text, [])
  | .error f =>
    if waits f (chunk.drop f.first) then
      (Utf8.decode (chunk.take f.first)).map fun text => (text, chunk.drop f.first)
    else .error f

/-- A text without the carriage return at its end, and whether it had one. -/
def splitReturn (text : List Char) : List Char × Bool :=
  if text.getLast? = some '\r' then (text.dropLast, true) else (text, false)

/-- Decode what is left of a file after `count` characters, a `Yield` before, bytes that wait and
perhaps a carriage return that waits. The fuel bounds the number of chunks. -/
def decodeFrom : Nat → Nat → Yield → List UInt8 → Bool → List UInt8 → Stream
  | 0, _, _, _, _, _ => ⟨[], none⟩
  | fuel + 1, count, last, pending, held, bytes =>
    let before := if held then ['\r'] else []
    if bytes = [] then
      match Utf8.decode pending with
      | .ok text => ⟨unifyNewlines (before ++ text), none⟩
      | .error f => ⟨[], some f⟩
    else
      let size := chunkSize last (blockSize - count % blockSize)
      match decodeChunk (pending ++ bytes.take size) with
      | .error f => ⟨[], some f⟩
      | .ok (text, pending) =>
        -- a return that was held back waits on until a character follows it
        let (text, held) := if text = [] then ([], held) else splitReturn (before ++ text)
        let made := unifyNewlines text
        let rest := bytes.drop size
        let read := ⟨bytes.length - rest.length, made.length⟩
        let more := decodeFrom fuel (count + made.length) read pending held rest
        ⟨made ++ more.chars, more.fault⟩

def ofBytes (bytes : List UInt8) : Stream :=
  decodeFrom (bytes.length + 1) 0 ⟨0, 0⟩ [] false bytes

end Stream

end BindingIndex.Text
