/-! # The parts of a document

A text is read as tokens, its signs and scalars in their order, and these as nodes with tags, which
say what kind of value a node stands for. Most faults make a document malformed. The others concern
single values that are well formed as text and denote nothing.
-/

namespace ClusterLaunch.Yaml

/-- Why a document has no value. -/
inductive Error where
  /-- The text breaks the rules of the language or names something unknown. -/
  | malformed
  /-- An escape names a code point beyond the last. -/
  | codePoint
  /-- An escape names a code point of more than 31 bits. -/
  | hugeCodePoint
  /-- A text marked as a number is none. -/
  | numeral
  /-- A text marked as a number has no digits at all. -/
  | emptyNumeral
  /-- A number is beyond the range of its type. -/
  | range
  /-- A text marked as a truth value is none. -/
  | truthValue
  /-- A text marked as a timestamp is none. -/
  | timestamp
  /-- A timestamp names a day or a time that does not exist. -/
  | calendar
  /-- A timestamp is written as a mapping. -/
  | notText
  /-- Nodes are nested too deep or without end. -/
  | depth
  deriving DecidableEq, Repr

inductive Tag where
  | null
  | bool
  | int
  | float
  | binary
  | timestamp
  | omap
  | pairs
  | set
  | str
  | seq
  | map
  | merge
  | value
  | unknown (uri : String)
  deriving DecidableEq, Repr, Inhabited

/-- The common beginning of the tags of the language. -/
def Tag.family : String := "tag:yaml.org,2002:"

def Tag.known : List (String × Tag) :=
  [("null", .null), ("bool", .bool), ("int", .int), ("float", .float), ("binary", .binary),
    ("timestamp", .timestamp), ("omap", .omap), ("pairs", .pairs), ("set", .set), ("str", .str),
    ("seq", .seq), ("map", .map), ("merge", .merge), ("value", .value)]

def Tag.ofUri (uri : String) : Tag :=
  match known.find? fun entry => family ++ entry.1 == uri with
  | some entry => entry.2
  | none => .unknown uri

def Tag.isCollection : Tag → Bool
  | .omap | .pairs | .set | .seq | .map => true
  | _ => false

inductive Directive where
  | version (major : Nat)
  | tag (handle expansion : String)
  | other
  deriving DecidableEq, Repr

/-- A token of a document. The last one is the end of the text or a fault. -/
inductive Token where
  | directive (d : Directive)
  | documentStart
  | documentEnd
  | blockSequenceStart
  | blockMappingStart
  | blockEnd
  | blockEntry
  | key
  | value
  | flowSequenceStart
  | flowSequenceEnd
  | flowMappingStart
  | flowMappingEnd
  | flowEntry
  | alias (name : String)
  | anchor (name : String)
  | tag (handle : Option String) (suffix : String)
  | scalar (text : String) (plain : Bool)
  | streamEnd
  | fault (e : Error)
  deriving DecidableEq, Repr, Inhabited

end ClusterLaunch.Yaml
