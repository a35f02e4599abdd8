/-!
# Base64

Bytes as text: three bytes are written as four of sixty-four characters, which stand for six bits
each. Texts end in full groups of four, filled up with equals signs, and bits that belong to no
byte are zero; so all bytes have one text only.
-/

namespace ClusterCache.Text

namespace Base64

def sextet? (c : Char) : Option Nat :=
  if 'A' ≤ c && c ≤ 'Z' then some (c.toNat - 'A'.toNat)
  else if 'a' ≤ c && c ≤ 'z' then some (c.toNat - 'a'.toNat + 26)
  else if '0' ≤ c && c ≤ '9' then some (c.toNat - '0'.toNat + 52)
  else if c = '+' then some 62
  else if c = '/' then some 63
  else none

def decode? : List Char → Option (List UInt8)
  | [] => some []
  | [a, b, '=', '='] => do
      let (a, b) := (← sextet? a, ← sextet? b)
      guard (b % 16 = 0)
      return [(a * 4 + b / 16).toUInt8]
  | [a, b, c, '='] => do
      let (a, b, c) := (← sextet? a, ← sextet? b, ← sextet? c)
      guard (c % 4 = 0)
      return [(a * 4 + b / 16).toUInt8, (b % 16 * 16 + c / 4).toUInt8]
  | a :: b :: c :: d :: rest => do
      let (a, b, c, d) := (← sextet? a, ← sextet? b, ← sextet? c, ← sextet? d)
      let later ← decode? rest
      return (a * 4 + b / 16).toUInt8 :: (b % 16 * 16 + c / 4).toUInt8
        :: (c % 4 * 64 + d).toUInt8 :: later
  | _ => none

end Base64

end ClusterCache.Text
