import TokenConformance.Text.Quote
import TokenConformance.Tokenizer.Basic

/-!
# Finding a tokenizer — the name under which it is plugged in

A tokenizer is named by a module and an attribute of it with a colon between them.
-/

namespace TokenConformance

/-- What a module holds under a name. -/
inductive Export
  | tokenizer (t : Tokenizer)
  | value

/-- The modules that can be loaded, with what they hold. -/
abbrev Registry := List (Text × List (Text × Export))

/-- Why no tokenizer was found. -/
inductive RegistryError
  /-- The name is not two names with a colon between them. -/
  | malformed (spec : Text)
  /-- The module's name starts with a dot. -/
  | relativeModule
  | noSuchModule
  | noSuchAttribute
  /-- What was found is no tokenizer. -/
  | notCallable (spec : Text)
  deriving DecidableEq

open Text (ofString) in
/-- What the error says, if it says anything. -/
def RegistryError.message? : RegistryError → Option Text
  | malformed spec =>
    some (ofString "tokenizer must be given as module:callable, got " ++ spec.quote)
  | notCallable spec => some (spec ++ ofString " is not callable")
  | _ => none

/-- The tokenizer with the given name. -/
def Registry.load (registry : Registry) (spec : Text) : Except RegistryError Tokenizer :=
  match Text.splitAtFirst? ':' spec with
  | none => .error (.malformed spec)
  | some (moduleName, attributeName) =>
    if moduleName.isEmpty || attributeName.isEmpty then .error (.malformed spec)
    else if moduleName.startsWith (Text.ofString ".") then .error .relativeModule
    else
      match registry.lookup moduleName with
      | none => .error .noSuchModule
      | some exports =>
        match exports.lookup attributeName with
        | none => .error .noSuchAttribute
        | some .value => .error (.notCallable spec)
        | some (.tokenizer t) => .ok t

end TokenConformance
