import BindingIndex.Text.Basic

/-!
# UTF-8

Strict encoding and decoding. A fault names the first bytes that no text can hold, as the longest
start of a sequence that was still possible, and says what was wrong after them.

* `Utf8.encode`: the bytes of a string; `Utf8.encodeText`: those of a text, or why it has none.
* `Utf8.fileName`: the bytes of a text as a file name.
* `Utf8.decode`: the characters of bytes, or the first fault.
* `Utf8.nameText`: the text of bytes as a file name.
* `Utf8.Fault.message`: the text of a fault.
-/

namespace BindingIndex.Text.Utf8

inductive Reason where
  | invalidStart
  | invalidContinuation
  | unexpectedEnd
  deriving DecidableEq, Repr

/-- The bytes from position `first`, `count` of them starting with `byte`, are no character. -/
structure Fault where
  byte : UInt8
  first : Nat
  count : Nat
  reason : Reason
  deriving DecidableEq, Repr

def Reason.message : Reason → String
  | .invalidStart => "invalid start byte"
  | .invalidContinuation => "invalid continuation byte"
  | .unexpectedEnd => "unexpected end of data"

/-- The text of a fault: its byte if it is one alone, else its range of positions. -/
def Fault.message (f : Fault) : String :=
  "'utf-8' codec can't decode " ++
    (if f.count ≤ 1 then
      "byte 0x" ++ String.ofList (hex 2 f.byte.toNat) ++ " in position " ++ toString f.first
    else
      "bytes in position " ++ toString f.first ++ "-" ++ toString (f.first + f.count - 1))
    ++ ": " ++ f.reason.message

def encodeChar (c : Char) : List UInt8 :=
  let n := c.toNat
  if n < 0x80 then [UInt8.ofNat n]
  else if n < 0x800 then [UInt8.ofNat (0xC0 + n / 0x40), UInt8.ofNat (0x80 + n % 0x40)]
  else if n < 0x10000 then
    [UInt8.ofNat (0xE0 + n / 0x1000), UInt8.ofNat (0x80 + n / 0x40 % 0x40),
      UInt8.ofNat (0x80 + n % 0x40)]
  else
    [UInt8.ofNat (0xF0 + n / 0x40000), UInt8.ofNat (0x80 + n / 0x1000 % 0x40),
      UInt8.ofNat (0x80 + n / 0x40 % 0x40), UInt8.ofNat (0x80 + n % 0x40)]

def encodeChars (s : List Char) : List UInt8 := s.flatMap encodeChar

def encode (s : String) : List UInt8 := encodeChars s.toList

/-- The bytes of a text, if it holds no surrogate. -/
def encodeText (t : Text) : Except Text.Fault (List UInt8) := t.chars.map encodeChars

/-- Does the surrogate stand for a byte that is no UTF-8? These are U+DC80 to U+DCFF. -/
def isStray (n : Fin 0x800) : Bool := 0x480 ≤ n.val && n.val < 0x500

/-- The bytes of a code point in a file name, where a stray byte stands for itself. No file name
holds another surrogate. -/
def nameBytes : CodePoint → List UInt8
  | .char c => encodeChar c
  | .surrogate n => if isStray n then [UInt8.ofNat (n.val - 0x400)] else []

def fileName (t : Text) : List UInt8 := t.flatMap nameBytes

/-- The number of bytes of a text as a file name. -/
def size (t : Text) : Nat := (fileName t).length

/-- The surrogates that keep a text from being a file name. -/
def nameFault? (t : Text) : Option Text.Fault := t.faultFrom isStray 0

@[simp] theorem encodeText_ofString (s : String) : encodeText s = .ok (encode s) := by
  rw [encodeText, Text.chars_ofString]
  rfl

@[simp] theorem fileName_ofChars (s : List Char) : fileName (Text.ofChars s) = encodeChars s := by
  simp [fileName, Text.ofChars, encodeChars, List.flatMap_map, nameBytes]

@[simp] theorem fileName_ofString (s : String) : fileName s = encode s := fileName_ofChars s.toList

@[simp] theorem nameFault?_ofString (s : String) : nameFault? s = none :=
  Text.faultFrom_ofChars _ 0 s.toList

def isTail (b : UInt8) : Bool := 0x80 ≤ b.toNat && b.toNat < 0xC0

/-- May the byte follow the lead byte `b`? Some leads exclude overlong forms, surrogates and code
points above U+10FFFF by their second byte. -/
def isSecond (b c : UInt8) : Bool :=
  isTail c &&
    (if b.toNat = 0xE0 then 0xA0 ≤ c.toNat
    else if b.toNat = 0xED then c.toNat < 0xA0
    else if b.toNat = 0xF0 then 0x90 ≤ c.toNat
    else if b.toNat = 0xF4 then c.toNat < 0x90
    else true)

/-- Decode the bytes from position `pos` on. -/
def decodeFrom (pos : Nat) : List UInt8 → Except Fault (List Char)
  | [] => .ok []
  | a :: rest =>
    let n := a.toNat
    if n < 0x80 then (decodeFrom (pos + 1) rest).map (Char.ofNat n :: ·)
    -- continuation bytes, and leads of nothing but overlong forms or too great numbers
    else if n < 0xC2 ∨ 0xF5 ≤ n then .error ⟨a, pos, 1, .invalidStart⟩
    else
      match rest with
      | [] => .error ⟨a, pos, 1, .unexpectedEnd⟩
      | b :: rest =>
        if !isSecond a b then .error ⟨a, pos, 1, .invalidContinuation⟩
        else if n < 0xE0 then
          (decodeFrom (pos + 2) rest).map
            (Char.ofNat ((n - 0xC0) * 0x40 + (b.toNat - 0x80)) :: ·)
        else
          match rest with
          | [] => .error ⟨a, pos, 2, .unexpectedEnd⟩
          | c :: rest =>
            if !isTail c then .error ⟨a, pos, 2, .invalidContinuation⟩
            else if n < 0xF0 then
              (decodeFrom (pos + 3) rest).map
                (Char.ofNat ((n - 0xE0) * 0x1000 + (b.toNat - 0x80) * 0x40 + (c.toNat - 0x80)) :: ·)
            else
              match rest with
              | [] => .error ⟨a, pos, 3, .unexpectedEnd⟩
              | d :: rest =>
                if !isTail d then .error ⟨a, pos, 3, .invalidContinuation⟩
                else
                  (decodeFrom (pos + 4) rest).map
                    (Char.ofNat ((n - 0xF0) * 0x40000 + (b.toNat - 0x80) * 0x1000 +
                      (c.toNat - 0x80) * 0x40 + (d.toNat - 0x80)) :: ·)

def decode (bytes : List UInt8) : Except Fault (List Char) := decodeFrom 0 bytes

/-- The character that bytes start with, and how many more bytes it has. -/
def leadingChar? (bytes : List UInt8) : Option (Char × Nat) :=
  [0, 1, 2, 3].findSome? fun more =>
    match decode (bytes.take (more + 1)) with
    | .ok [c] => some (c, more)
    | _ => none

/-- The text of a file name, where a surrogate stands for every stray byte; `skipped` bytes belong
to the character before. -/
def nameFrom (skipped : Nat) : List UInt8 → Text
  | [] => []
  | b :: rest =>
    match skipped with
    | skipped + 1 => nameFrom skipped rest
    | 0 =>
      match leadingChar? (b :: rest) with
      | some (c, more) => .char c :: nameFrom more rest
      | none => .ofNat (0xDC00 + b.toNat) :: nameFrom 0 rest

def nameText (name : List UInt8) : Text := nameFrom 0 name

end BindingIndex.Text.Utf8
