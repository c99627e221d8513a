import TokenConformance.Text.CodePoint

/-!
# Tokenizer states — where a test starts, and what its text is

The six states in which a tokenizer can be started.  They are the kinds of text as well: each kind
has its own rules on character references and null characters.
-/

namespace TokenConformance

/-- A state that a tokenizer can be started in. -/
inductive TokenizerState
  | plaintext
  | rcdata
  | rawtext
  | scriptData
  | data
  | cdataSection
  deriving DecidableEq, Repr

namespace TokenizerState

/-- All states. -/
def all : List TokenizerState := [plaintext, rcdata, rawtext, scriptData, data, cdataSection]

/-- The short name of a state. -/
def name : TokenizerState → String
  | plaintext => "PLAINTEXT"
  | rcdata => "RCDATA"
  | rawtext => "RAWTEXT"
  | scriptData => "SCRIPT_DATA"
  | data => "DATA"
  | cdataSection => "CDATA_SECTION"

/-- The name of a state in test files and reports. -/
def label : TokenizerState → String
  | plaintext => "PLAINTEXT state"
  | rcdata => "RCDATA state"
  | rawtext => "RAWTEXT state"
  | scriptData => "Script data state"
  | data => "Data state"
  | cdataSection => "CDATA section state"

/-- The state with the given short name. -/
def ofName? (name : Text) : Option TokenizerState :=
  all.find? fun state => decide (Text.ofString state.name = name)

/-- The state with the given name in test files. -/
def ofLabel? (label : Text) : Option TokenizerState :=
  all.find? fun state => decide (Text.ofString state.label = label)

/-- Whether character references are decoded in text of this kind. -/
def allowsReferences : TokenizerState → Bool
  | data | rcdata => true
  | _ => false

/-- Whether null characters are replaced in text of this kind. -/
def replacesNulls : TokenizerState → Bool
  | data | cdataSection => false
  | _ => true

end TokenizerState

end TokenConformance
