import TokenConformance.Text.Digit

/-!
# Sorting a command line — which words are options and which are arguments

An option is a flag, which stands alone, or a setting, which takes arguments.  A word that starts
with a dash names an option, in full, by an unambiguous beginning of its name, or by the letter of
a flag.  A value may be joined to a name with an equals sign.  Words that look like negative
numbers or hold a blank are arguments unless they name an option, and so is everything behind a
double dash.
-/

namespace TokenConformance

/-- The options that stand alone. -/
inductive Flag
  | help
  | failFast
  | verbose
  | quiet
  deriving DecidableEq, Repr

/-- The options that take arguments. -/
inductive Setting
  | tokenizer
  | testDir
  | testSpecs
  | filterFiles
  | excludeFiles
  | excludeInputs
  | filterInputs
  deriving DecidableEq, Repr

/-- The options of the command line. -/
inductive OptionName
  | flag (f : Flag)
  | setting (s : Setting)
  deriving DecidableEq, Repr

/-- The name of a flag. -/
def Flag.name : Flag → String
  | help => "--help"
  | failFast => "--fail-fast"
  | verbose => "--verbose"
  | quiet => "--quiet"

/-- The letter of a flag. -/
def Flag.letter : Flag → CodePoint
  | help => 'h'
  | failFast => 'x'
  | verbose => 'v'
  | quiet => 'q'

/-- The flag with the given letter. -/
def Flag.ofLetter? (c : CodePoint) : Option Flag :=
  [help, failFast, verbose, quiet].find? fun f => decide (f.letter = c)

/-- The name of a setting. -/
def Setting.name : Setting → String
  | tokenizer => "--tokenizer"
  | testDir => "--test-dir"
  | testSpecs => "--test-specs"
  | filterFiles => "--filter-files"
  | excludeFiles => "--exclude-files"
  | excludeInputs => "--exclude-html"
  | filterInputs => "--filter-html"

/-- Whether the setting takes all arguments behind it, and not one alone. -/
def Setting.takesMany : Setting → Bool
  | testSpecs | filterFiles => true
  | _ => false

namespace OptionName

/-- All options. -/
def all : List OptionName := [flag .help, setting .tokenizer, setting .testDir, flag .failFast,
  setting .testSpecs, setting .filterFiles, flag .verbose, flag .quiet, setting .excludeFiles,
  setting .excludeInputs, setting .filterInputs]

/-- The name of an option, from its two dashes on. -/
def name : OptionName → Text
  | flag f => Text.ofString f.name
  | setting s => Text.ofString s.name

/-- The option with the given name. -/
def ofName? (t : Text) : Option OptionName := all.find? fun option => decide (option.name = t)

/-- The options whose names start with the given text. -/
def startingWith (t : Text) : List OptionName := all.filter fun option => option.name.startsWith t

end OptionName

/-- A word of the command line. -/
inductive Word
  /-- No option. -/
  | argument (t : Text)
  /-- An option alone. -/
  | option (name : OptionName)
  /-- The name of an option with a value joined to it. -/
  | joined (name : OptionName) (value : Text)
  /-- The letter of a flag with more letters behind it. -/
  | letters (flag : Flag) (rest : Text)
  /-- A double dash. -/
  | doubleDash
  /-- An option that does not exist. -/
  | unknown
  deriving DecidableEq

namespace Word

/-- Whether a word is a dash and a number: digits, or digits with a point and more digits. -/
def isNegativeNumber (t : Text) : Bool :=
  let t := if t.getLast? = some (.ofChar '\n') then t.dropLast else t
  let isDecimal := fun c : CodePoint => c.decimalValue?.isSome
  match t with
  | [] => false
  | dash :: number =>
    dash = '-' &&
      match Text.splitAtFirst? '.' number with
      | none => !number.isEmpty && number.all isDecimal
      | some (whole, fraction) =>
        whole.all isDecimal && !fraction.isEmpty && fraction.all isDecimal

/-- A word that starts with a dash and names no option. -/
def ofOther (t : Text) : Word :=
  if isNegativeNumber t || t.contains (CodePoint.ofChar ' ') then argument t else unknown

/-- A word that starts with a single dash; `c` and `rest` are what follows it.  An equals sign
directly behind the first letter is skipped. -/
def ofLetters (c : CodePoint) (rest : Text) : Word :=
  match Flag.ofLetter? c, rest with
  | none, _ => ofOther ('-' :: c :: rest)
  | some f, [] => option (.flag f)
  | some f, d :: after => if d = '=' then letters f after else letters f rest

/-- A word that starts with two dashes, or `none` where it fits several options. -/
def ofName? (t : Text) : Option Word :=
  let (beginning, value?) := match Text.splitAtFirst? '=' t with
    | none => (t, none)
    | some (before, value) => (before, some value)
  let found := match OptionName.ofName? beginning with
    | some name => [name]
    | none => OptionName.startingWith beginning
  match found, value? with
  | [], _ => some (ofOther t)
  | [name], none => some (option name)
  | [name], some value => some (joined name value)
  | _, _ => none

/-- The word that a text is, or `none` where it is ambiguous. -/
def ofText? (t : Text) : Option Word :=
  match t with
  | dash :: c :: rest =>
    if dash ≠ '-' then some (argument t)
    else if c ≠ '-' then some (ofLetters c rest)
    else if rest.isEmpty then some doubleDash
    else ofName? t
  | _ => some (argument t)

/-- The words of a command line, or `none` where one is ambiguous. -/
def ofTexts? : List Text → Option (List Word)
  | [] => some []
  | t :: rest =>
    match ofText? t with
    | none => none
    | some doubleDash => some (doubleDash :: rest.map argument)
    | some word => (ofTexts? rest).map (word :: ·)

end Word

end TokenConformance
