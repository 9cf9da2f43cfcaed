/-!
# Text — UTF-8

`decode` reads bytes as text and names what is wrong with the first sequence it cannot read: a
byte that starts none, a byte that does not continue the one before it, or an end in the middle.
The second byte of a sequence is held to the narrower range that rules out overlong forms,
surrogates and numbers above U+10FFFF.
-/

namespace FolderSieve.Text.Utf8

/-- Why bytes are not UTF-8. -/
inductive Fault where
  | startByte
  | continuationByte
  | endOfData
  deriving DecidableEq, Repr

namespace Fault

def message : Fault → String
  | startByte => "invalid start byte"
  | continuationByte => "invalid continuation byte"
  | endOfData => "unexpected end of data"

end Fault

/-- The six bits of a continuation byte. -/
def tailBits (b : UInt8) : Nat :=
  b.toNat % 64

/-- A byte of the form that continues a sequence. -/
def isTail (b : UInt8) : Bool :=
  0x80 ≤ b && b ≤ 0xBF

/-- The second byte a sequence of three or four may have, given its first. -/
def isSecond (a b : UInt8) : Bool :=
  isTail b && (a != 0xE0 || 0xA0 ≤ b) && (a != 0xED || b < 0xA0) && (a != 0xF0 || 0x90 ≤ b) &&
    (a != 0xF4 || b < 0x90)

/-- The text that the bytes spell. -/
def decode : List UInt8 → Except Fault (List Char)
  | [] => .ok []
  | a :: rest =>
      if a < 0x80 then
        (decode rest).map (Char.ofNat a.toNat :: ·)
      else if a < 0xC2 || 0xF4 < a then
        .error .startByte
      else if a < 0xE0 then
        match rest with
        | [] => .error .endOfData
        | b :: rest =>
            if isTail b then
              (decode rest).map (Char.ofNat (a.toNat % 32 * 64 + tailBits b) :: ·)
            else .error .continuationByte
      else if a < 0xF0 then
        match rest with
        | [] => .error .endOfData
        | [b] => .error (if isSecond a b then .endOfData else .continuationByte)
        | b :: c :: rest =>
            if isSecond a b && isTail c then
              (decode rest).map
                (Char.ofNat (a.toNat % 16 * 4096 + tailBits b * 64 + tailBits c) :: ·)
            else .error .continuationByte
      else
        match rest with
        | [] => .error .endOfData
        | [b] => .error (if isSecond a b then .endOfData else .continuationByte)
        | [b, c] =>
            .error (if isSecond a b && isTail c then .endOfData else .continuationByte)
        | b :: c :: d :: rest =>
            if isSecond a b && isTail c && isTail d then
              (decode rest).map
                (Char.ofNat
                  (a.toNat % 8 * 262144 + tailBits b * 4096 + tailBits c * 64 + tailBits d) :: ·)
            else .error .continuationByte

/-- The bytes that spell a text. -/
def encode (s : String) : List UInt8 :=
  s.toUTF8.toList

end FolderSieve.Text.Utf8
