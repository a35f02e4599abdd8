/-!
# YAML tokens

The pieces that a YAML text consists of. Blocks, which are told by their indentation alone, have
tokens for their start and their end too.
-/

namespace ClusterCache.Yaml

inductive Token
  | version (major minor : Nat)
  /-- Tags may be shortened: the handle stands for the first part. -/
  | shorthand (handle : String) (expansion : List UInt8)
  | documentStart
  | documentEnd
  | blockSequence
  | blockMapping
  | blockEnd
  | flowSequence
  | flowSequenceEnd
  | flowMapping
  | flowMappingEnd
  | blockEntry
  | flowEntry
  | key
  | value
  | alias (name : String)
  | anchor (name : String)
  /-- A tag; without a handle it is complete. -/
  | tag (handle : String) (suffix : List UInt8)
  | scalar (text : String) (isPlain : Bool)
deriving DecidableEq, Repr

end ClusterCache.Yaml
