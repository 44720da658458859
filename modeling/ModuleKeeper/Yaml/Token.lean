import ModuleKeeper.Yaml.Cursor

/-!
# Tokens of a document

The pieces that a document is made of once blanks, comments and indentation
are read. Indentation has become tokens that open and close blocks.
-/

namespace ModuleKeeper.Yaml

/-- A piece of a document. -/
inductive Token where
  /-- The version that a document asks for. -/
  | version (major : Nat)
  /-- What a handle in tags stands for. -/
  | handle (name expansion : Text)
  /-- Any other directive. -/
  | directive
  | documentStart
  | documentEnd
  | blockSequence
  | blockMapping
  | blockEnd
  | flowSequence
  | flowSequenceEnd
  | flowMapping
  | flowMappingEnd
  /-- The dash before an item. -/
  | dash
  | comma
  | key
  | value
  | reference (name : Text)
  | anchor (name : Text)
  /-- A tag; without a handle the suffix is the whole tag. -/
  | tag (handle : Option Text) (suffix : Text)
  /-- A scalar and whether it is written without quotes. -/
  | scalar (text : List CodePoint) (plain : Bool)
  /-- The place where the text cannot be read on. -/
  | broken (trouble : Trouble)
  deriving DecidableEq, Inhabited

/-- The trouble of a reader that expects something else at the start of `ts`. -/
def Token.unexpected : List Token → Trouble
  | .broken t :: _ => t
  | _ => .malformed

end ModuleKeeper.Yaml
