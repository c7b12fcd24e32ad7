import ExMode.Text

/-!
# ExMode.Error

The numbered errors of Ex commands and their wording on the status line: the
number, the fixed text of the error and, when there is one, a detail.
-/

namespace ExMode

/-- The kinds of error an Ex command reports. -/
inductive ErrorCode where
  | invalidAddress
  | invalidRange
  | noFileName
  | noWriteSinceLastChange
  | internalError
  | markNotSet
  | invalidRegisterName
  | invalidArgument
  | noBangAllowed
  | noRangeAllowed
  | cannotOpenFile
  | trailingCharacters
  | notAnEditorCommand
  | patternNotFound
  | nothingInRegister
  deriving DecidableEq, Repr

namespace ErrorCode

/-- Every kind of error. -/
def all : List ErrorCode :=
  [.invalidAddress, .invalidRange, .noFileName, .noWriteSinceLastChange, .internalError,
    .markNotSet, .invalidRegisterName, .invalidArgument, .noBangAllowed, .noRangeAllowed,
    .cannotOpenFile, .trailingCharacters, .notAnEditorCommand, .patternNotFound,
    .nothingInRegister]

/-- The number an error is known by. -/
def number : ErrorCode → Nat
  | .invalidAddress => 14
  | .invalidRange => 16
  | .noFileName => 32
  | .noWriteSinceLastChange => 37
  | .internalError => 99
  | .markNotSet => 20
  | .invalidRegisterName => 354
  | .invalidArgument => 474
  | .noBangAllowed => 477
  | .noRangeAllowed => 481
  | .cannotOpenFile => 482
  | .trailingCharacters => 488
  | .notAnEditorCommand => 492
  | .patternNotFound => 486
  | .nothingInRegister => 353

/-- The fixed text of an error. -/
def words : ErrorCode → String
  | .invalidAddress => "Invalid address"
  | .invalidRange => "Invalid range"
  | .noFileName => "No file name"
  | .noWriteSinceLastChange => "No write since last change (add ! to override)"
  | .internalError => "Internal error"
  | .markNotSet => "Mark not set"
  | .invalidRegisterName => "Invalid register name"
  | .invalidArgument => "Invalid argument"
  | .noBangAllowed => "No ! allowed"
  | .noRangeAllowed => "No range allowed"
  | .cannotOpenFile => "Can't open file for writing"
  | .trailingCharacters => "Trailing characters"
  | .notAnEditorCommand => "Not an editor command"
  | .patternNotFound => "Pattern not found"
  | .nothingInRegister => "Nothing in register"

/-- The kind of error with a given number. -/
def ofNumber? (n : Int) : Option ErrorCode := all.find? fun c => (c.number : Int) == n

/-- The short name of an error, `E` and its number. -/
def label (c : ErrorCode) : Text := 'E' :: Text.ofNat c.number

end ErrorCode

/-- An error of an Ex command: its kind and what it is about. -/
structure CommandError where
  code : ErrorCode
  detail : Text
  deriving DecidableEq, Repr

namespace CommandError

/-- An error that needs no detail. -/
def plain (code : ErrorCode) : CommandError := ⟨code, []⟩

/-- The error as the status line shows it. -/
def message (e : CommandError) : Text :=
  e.code.label ++ ": ".toList ++ e.code.words.toList ++
    (if e.detail = [] then [] else ": ".toList ++ e.detail)

example : message ⟨.notAnEditorCommand, "foo".toList⟩ =
    "E492: Not an editor command: foo".toList := by decide

end CommandError

end ExMode
