import NodeFit.Yaml.Property

/-!
# NodeFit.Yaml.Token

Tokens: the indicators, properties and scalars of a YAML text in order.

Keys and the starts and ends of block collections have no character of their own
everywhere; tokens make them explicit.
-/

namespace NodeFit.Yaml

inductive Token where
  | directive (d : Directive)
  | documentStart
  | documentEnd
  | blockSequenceStart
  | blockMappingStart
  | blockEnd
  | flowSequenceStart
  | flowSequenceEnd
  | flowMappingStart
  | flowMappingEnd
  /-- A hyphen in front of an item. -/
  | blockEntry
  /-- A comma. -/
  | flowEntry
  | key
  | value
  | alias (name : String)
  | anchor (name : String)
  | tag (t : WrittenTag)
  /-- A scalar, and whether it stands without quotes in the middle of a line. -/
  | scalar (text : String) (plain : Bool)
deriving DecidableEq, Repr

end NodeFit.Yaml
