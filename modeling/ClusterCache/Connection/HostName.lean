import ClusterCache.Text.Blank

/-!
# Names of hosts

What a certificate can be made out to: a name of labels with dots between them, or an address by
numbers.
-/

namespace ClusterCache.HostName

/-! ## Names -/

/-- A label: letters, digits, underscores and hyphens, but no hyphen at either end. -/
def isLabel (label : List Char) : Bool :=
  !label.isEmpty && label.length ≤ 63 && (label.all fun c => c.isAlphanum || c = '_' || c = '-')
    && label.head? ≠ some '-' && label.getLast? ≠ some '-'

/-- A name. Its last label is not a number; a dot may follow it. -/
def isName (text : List Char) : Bool :=
  let labels := Text.piecesList '.' text
  let labels := if labels.getLast? = some [] then labels.dropLast else labels
  text.length ≤ 253 && !labels.isEmpty && labels.all isLabel
    && (labels.getLast?.any fun label => !label.all Char.isDigit)

/-! ## Addresses -/

/-- A number up to 255, without needless zeros. -/
def isOctet (text : List Char) : Bool :=
  !text.isEmpty && text.length ≤ 3 && text.all Char.isDigit
    && (text.length = 1 || text.head? ≠ some '0')
    && text.foldl (fun value c => 10 * value + (c.toNat - '0'.toNat)) 0 ≤ 255

def isShortAddress (text : List Char) : Bool :=
  let octets := Text.piecesList '.' text
  octets.length = 4 && octets.all isOctet

def isHexDigit (c : Char) : Bool :=
  c.isDigit || ('a' ≤ c && c ≤ 'f') || ('A' ≤ c && c ≤ 'F')

def isGroup (text : List Char) : Bool :=
  !text.isEmpty && text.length ≤ 4 && text.all isHexDigit

/-- How many groups there are. An address of four numbers may stand for the last two if `short`
holds. -/
def countGroups (short : Bool) : List (List Char) → Option Nat
  | [] => some 0
  | [last] =>
      if isGroup last then some 1 else if short && isShortAddress last then some 2 else none
  | group :: rest => if isGroup group then (countGroups short rest).map (· + 1) else none

def countSide (short : Bool) (text : List Char) : Option Nat :=
  if text.isEmpty then some 0 else countGroups short (Text.piecesList ':' text)

def cutGap : List Char → Option (List Char × List Char)
  | ':' :: ':' :: rest => some ([], rest)
  | c :: rest => (cutGap rest).map fun (before, after) => (c :: before, after)
  | [] => none

/-- An address of eight groups, at least one of which may be left out. -/
def isLongAddress (text : List Char) : Bool :=
  match cutGap text with
  | some (before, after) =>
      match countSide false before, countSide true after with
      | some left, some right => left + right ≤ 7
      | _, _ => false
  | none => countGroups true (Text.piecesList ':' text) = some 8

def isHostName (text : String) : Bool :=
  isName text.toList || isShortAddress text.toList || isLongAddress text.toList

end ClusterCache.HostName
