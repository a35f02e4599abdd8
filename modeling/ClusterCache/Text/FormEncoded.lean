/-!
# Form-encoded text

The encoding of texts in the query of a request target: letters, digits and four marks stand for
themselves, a space is a plus sign, and every other byte of the UTF-8 encoding is written by its
number.
-/

namespace ClusterCache.Text

def isPlainByte (byte : UInt8) : Bool :=
  let number := byte.toNat
  (0x30 ≤ number && number ≤ 0x39) || (0x41 ≤ number && number ≤ 0x5A)
    || (0x61 ≤ number && number ≤ 0x7A) || number = 0x2A || number = 0x2D || number = 0x2E
    || number = 0x5F

def capitalDigit (value : Nat) : Char := (Nat.digitChar value).toUpper

def formByte (byte : UInt8) : List Char :=
  if isPlainByte byte then [Char.ofNat byte.toNat]
  else if byte.toNat = 0x20 then ['+']
  else ['%', capitalDigit (byte.toNat / 16), capitalDigit (byte.toNat % 16)]

def formEncoded (text : String) : String :=
  String.ofList (text.toUTF8.toList.flatMap formByte)

/-- Parameters at the end of a query that something stands before. -/
def formParameters (parameters : List (String × String)) : String :=
  String.join (parameters.map fun (name, value) =>
    "&" ++ formEncoded name ++ "=" ++ formEncoded value)

end ClusterCache.Text
