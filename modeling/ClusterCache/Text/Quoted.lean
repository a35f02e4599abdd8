import ClusterCache.Text.Hidden

/-!
# Quoted text

A quoted text stands between double quotes. A quote, a backslash and the four common control
characters inside it are written with a backslash and a letter; every other character that has no
shape of its own, or combines with its neighbour, is written by its number; all else stands for
itself.
-/

namespace ClusterCache.Text

def numbered (c : Char) : List Char :=
  ['\\', 'u', '\x7b'] ++ Nat.toDigits 16 c.toNat ++ ['\x7d']

def quotedChar (c : Char) : List Char :=
  if c = '\x00' then ['\\', '0']
  else if c = '\t' then ['\\', 't']
  else if c = '\r' then ['\\', 'r']
  else if c = '\n' then ['\\', 'n']
  else if c = '"' then ['\\', '"']
  else if c = '\\' then ['\\', '\\']
  else if 0x20 ≤ c.toNat && c.toNat ≤ 0x7E then [c]
  else if isCombining c || isShapeless c then numbered c
  else [c]

/-- The text between double quotes, with everything escaped that would not show as itself. -/
def quoted (text : String) : String :=
  String.ofList ('"' :: (text.toList.flatMap quotedChar ++ ['"']))

end ClusterCache.Text
