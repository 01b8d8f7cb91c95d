import LiveConfig.Log
import LiveConfig.Net.Url
import LiveConfig.Number.Binary
import LiveConfig.Time.Duration

/-!
What can go wrong, as causes, and how each is told.

An error of a configuration names what it is about and carries a fault; the wording of all of them is
in the functions called `message`.  A failed conversion may have a cause of its own, which `causes`
lists outermost first.
-/
namespace LiveConfig

inductive DefinitionFault where
  | emptyDeclarationName
  | zeroInterval
  | emptyAccessorName
  | emptyKey (accessor : String)
  | emptySeparator (accessor : String)
  | declaredTwice (accessor : String)
  | invalidSubstitutor (name : String)
  | duplicateSubstitutor (name : String)
  | importedNoTable
  | importedNull (key : String)
  | importedNoText (key written : String)
  | told (text : String)
  | within (context : String) (fault : DefinitionFault)
  deriving DecidableEq

def DefinitionFault.message : DefinitionFault → String
  | .emptyDeclarationName => "declaration name must not be empty"
  | .zeroInterval => "hot reload interval must be greater than zero"
  | .emptyAccessorName => "accessor name must not be empty"
  | .emptyKey a => "accessor '" ++ a ++ "' has an empty key"
  | .emptySeparator a => "accessor '" ++ a ++ "' has an empty separator"
  | .declaredTwice a => "accessor '" ++ a ++ "' declared twice"
  | .invalidSubstitutor n => "invalid substitutor name '" ++ n ++ "'"
  | .duplicateSubstitutor n => "substitutor '" ++ n ++ "' registered twice"
  | .importedNoTable => "imported value must be a JSON object"
  | .importedNull k => "imported key '" ++ k ++ "' has a null value"
  | .importedNoText k w => "imported key '" ++ k ++ "' must be a string, got " ++ w
  | .told text => text
  | .within context fault => context ++ ": " ++ fault.message

inductive LocatorFault where
  | empty
  | missingScheme
  | malformedScheme (scheme : String)
  | emptyPath
  | illegalCharacter (c : Char)
  | notLocal
  | url (e : Net.UrlError)
  | told (text : String)
  deriving DecidableEq

def LocatorFault.message : LocatorFault → String
  | .empty => "empty locator"
  | .missingScheme => "missing scheme"
  | .malformedScheme s => "malformed scheme '" ++ s ++ "'"
  | .emptyPath => "empty path"
  | .illegalCharacter c => "illegal character '" ++ String.singleton c ++ "'"
  | .notLocal => "not a local file URL"
  | .url e => e.message
  | .told text => text

inductive FileFault where
  | notFound
  | isDirectory
  | notDirectory
  | nameTooLong
  | nullInName
  | notText
  deriving DecidableEq

def FileFault.message : FileFault → String
  | .notFound => "No such file or directory (os error 2)"
  | .isDirectory => "Is a directory (os error 21)"
  | .notDirectory => "Not a directory (os error 20)"
  | .nameTooLong => "File name too long (os error 36)"
  | .nullInName => "file name contained an unexpected NUL byte"
  | .notText => "stream did not contain valid UTF-8"

inductive SourceFault where
  | noSuchMap
  | unsupportedScheme (scheme : String)
  | unsupportedFormat (extension : String)
  | notInRoots
  | notFileBased (scheme : String)
  | unreadable (path : String) (fault : FileFault)
  | malformed (lower upper : String)
  | told (text : String)
  | within (context : String) (fault : SourceFault)
  deriving DecidableEq

def sourceMessage (source told : String) : String :=
  "Source unavailable: " ++ source ++ ": " ++ told

def SourceFault.message : SourceFault → String
  | .noSuchMap => "no such map"
  | .unsupportedScheme s => "no loader supports scheme '" ++ s ++ "'"
  | .unsupportedFormat e => "unsupported file format '" ++ e ++ "'"
  | .notInRoots => "not found in any resource root"
  | .notFileBased s => "scheme '" ++ s ++ "' is not file based"
  | .unreadable path fault => path ++ ": " ++ fault.message
  | .malformed lower upper => sourceMessage lower (upper ++ " error")
  | .told text => text
  | .within context fault => context ++ ": " ++ fault.message

inductive Refusal where
  | integer (e : Number.IntegerError)
  | float (e : Number.FloatError)
  | address (e : Net.AddressError)
  | url (e : Net.UrlError)
  | notTrueOrFalse
  | severalCharacters
  | noCharacter
  | told (text : String)
  deriving DecidableEq

def Refusal.message : Refusal → String
  | .integer e => e.message
  | .float e => e.message
  | .address e => e.message
  | .url e => e.message
  | .notTrueOrFalse => "provided string was not `true` or `false`"
  | .severalCharacters => "too many characters in string"
  | .noCharacter => "cannot parse char from empty string"
  | .told text => text

mutual
inductive ConversionFault where
  | causedBy (refusal : Refusal)
  | notBoolean (word : String)
  | notCharacter (text : String)
  | notDuration (text : String) (e : Time.DurationError)
  | token (token : String) (cause : ConfigError)
  | wrongLength (expected found : Nat)
  | wrongOutput (produced : String)
  | editorsDisabled
  | noEditor
  | told (text : String)
  | within (context : String) (fault : ConversionFault)

inductive ConfigError where
  | definition (fault : DefinitionFault)
  | invalidLocator (locator : String) (fault : LocatorFault)
  | sourceUnavailable (source : String) (fault : SourceFault)
  | unsupportedConversion (key target : String) (fault : ConversionFault)
  | unknownProperty (name : String)
  | missing (key : String)
end

mutual
def ConversionFault.message : ConversionFault → String
  | .causedBy refusal => refusal.message
  | .notBoolean word => "'" ++ word ++ "' is not a boolean"
  | .notCharacter text => "'" ++ text ++ "' is not a single character"
  | .notDuration text e => Time.durationMessage text.toList e
  | .token token cause => "cannot convert token '" ++ token ++ "': " ++ cause.message
  | .wrongLength expected found =>
    "expected " ++ toString expected ++ " elements, found " ++ toString found
  | .wrongOutput produced => "declared converter produces " ++ produced
  | .editorsDisabled => "property editors are disabled"
  | .noEditor => "no property editor registered"
  | .told text => text
  | .within context fault => context ++ ": " ++ fault.message

def ConfigError.message : ConfigError → String
  | .definition fault => "Invalid configuration definition: " ++ fault.message
  | .invalidLocator locator fault =>
    "Unsupported source locator '" ++ locator ++ "': " ++ fault.message
  | .sourceUnavailable source fault => sourceMessage source fault.message
  | .unsupportedConversion key target fault =>
    "Unsupported conversion of property '" ++ key ++ "' to " ++ target ++ ": " ++ fault.message
  | .unknownProperty name => "Unknown property accessor: " ++ name
  | .missing key => "Property '" ++ key ++ "' is not set and has no default"
end

mutual
def ConversionFault.causes : ConversionFault → List String
  | .causedBy refusal => [refusal.message]
  | .token _ cause => cause.message :: cause.causes
  | .within _ fault => fault.causes
  | _ => []

def ConfigError.causes : ConfigError → List String
  | .unsupportedConversion _ _ fault => fault.causes
  | _ => []
end

instance : Inhabited ConfigError := ⟨.missing ""⟩

inductive ErrorCategory where
  | definition
  | source
  | conversion
  | lookup
  deriving DecidableEq

def ErrorCategory.name : ErrorCategory → String
  | .definition => "Definition"
  | .source => "Source"
  | .conversion => "Conversion"
  | .lookup => "Lookup"

namespace ConfigError

def category : ConfigError → ErrorCategory
  | .definition _ | .invalidLocator _ _ => .definition
  | .sourceUnavailable _ _ => .source
  | .unsupportedConversion _ _ _ => .conversion
  | .unknownProperty _ | .missing _ => .lookup

def isRecoverable : ConfigError → Bool
  | .sourceUnavailable _ _ => true
  | _ => false

def within (context : String) : ConfigError → ConfigError
  | .definition fault => .definition (.within context fault)
  | .sourceUnavailable source fault => .sourceUnavailable source (.within context fault)
  | .unsupportedConversion key target fault =>
    .unsupportedConversion key target (.within context fault)
  | other => other

def logLine (e : ConfigError) : LogLine :=
  ⟨.error, "Configuration error",
    [("error", .text e.message), ("category", .text e.category.name)]⟩

end ConfigError

structure Panic where
  text? : Option String
  deriving DecidableEq, Repr

inductive Failure where
  | error (e : ConfigError)
  | panic (p : Panic)

theorem ok_of_toOption {ε α : Type} {r : Except ε α} {a : α} (h : r.toOption = some a) :
    r = .ok a := by
  cases r with
  | error e => exact nomatch h
  | ok b => rw [Option.some.inj h]

end LiveConfig
