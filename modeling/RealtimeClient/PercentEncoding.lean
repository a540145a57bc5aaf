import RealtimeClient.Text.Digit
import RealtimeClient.Value

/-!
# Percent-encoding

A text as letters and digits only: every other byte of its UTF-8 form is written as `%` and two
upper-case hexadecimal digits.

* `Text.utf8` — the bytes of a text.
* `PercentEncoding.encode` — the encoded text.
* `PercentEncoding.decode?` — the bytes that an encoded text stands for.
-/

namespace RealtimeClient

/-- **The UTF-8 form of a text.** -/
def Text.utf8 (text : List Char) : Bytes := text.flatMap String.utf8EncodeChar

namespace PercentEncoding

/-- Whether a byte is an ASCII letter or digit. -/
def isPlain (b : UInt8) : Bool :=
  (0x30 ≤ b && b ≤ 0x39) || (0x41 ≤ b && b ≤ 0x5A) || (0x61 ≤ b && b ≤ 0x7A)

def upperHexDigit (n : Nat) : Char :=
  if n < 10 then Char.ofNat ('0'.toNat + n) else Char.ofNat ('A'.toNat + (n - 10))

/-- A byte as `%` and its two digits. -/
def escapeByte (b : UInt8) : List Char :=
  ['%', upperHexDigit (b.toNat / 16), upperHexDigit (b.toNat % 16)]

/-- A byte of an encoded text. -/
def encodeByte (b : UInt8) : List Char :=
  if isPlain b then [Char.ofNat b.toNat] else escapeByte b

/-- **A text, encoded.** -/
def encode (text : List Char) : List Char := (Text.utf8 text).flatMap encodeByte

/-- **The bytes that a text stands for**: `%` and two digits are a byte, every other character
stands for its own bytes.  A `%` without its digits stands for nothing. -/
def decode? : List Char → Option Bytes
  | [] => some []
  | '%' :: a :: b :: rest => do
    let high ← Text.digitValue? 16 a
    let low ← Text.digitValue? 16 b
    return (high * 16 + low).toUInt8 :: (← decode? rest)
  | c :: rest =>
    if c = '%' then none else (decode? rest).map (String.utf8EncodeChar c ++ ·)

end PercentEncoding

end RealtimeClient
