import ExMode.Error
import ExMode.Path
import ExMode.Text.Numeral
import ExMode.Text.Quoted
import ExMode.Text.Utf8

/-!
# ExMode.Fault

Everything that can stop an operation short.  A `Fault` names its cause; how it
is worded is one function.  Faults of Ex commands proper are told apart from all
others by `asCommandError?`, because the command line shows the former as they
are and the latter as internal errors.
-/

namespace ExMode

/-! ## refusals of the operating system -/

/-- Why the operating system refuses to act on a path. -/
inductive OsCause where
  | noEntry
  | badFormat
  | fileExists
  | notDirectory
  | isDirectory
  | noSpace
  | readOnly
  | nameTooLong
  | notEmpty
  | denied
  deriving DecidableEq, Repr

namespace OsCause

/-- The number of the refusal. -/
def number : OsCause → Nat
  | .noEntry => 2
  | .badFormat => 8
  | .denied => 13
  | .fileExists => 17
  | .notDirectory => 20
  | .isDirectory => 21
  | .noSpace => 28
  | .readOnly => 30
  | .nameTooLong => 36
  | .notEmpty => 39

/-- The wording of the refusal. -/
def words : OsCause → String
  | .noEntry => "No such file or directory"
  | .badFormat => "Exec format error"
  | .denied => "Permission denied"
  | .fileExists => "File exists"
  | .notDirectory => "Not a directory"
  | .isDirectory => "Is a directory"
  | .noSpace => "No space left on device"
  | .readOnly => "Read-only file system"
  | .nameTooLong => "File name too long"
  | .notEmpty => "Directory not empty"

end OsCause

/-- A refusal with the path it concerns, and the second path of a renaming. -/
structure OsError where
  cause : OsCause
  path : Text
  target : Option Text := none
  deriving DecidableEq, Repr

/-- A refusal in words. -/
def OsError.message (e : OsError) : Text :=
  "[Errno ".toList ++ Text.ofNat e.cause.number ++ "] ".toList ++ e.cause.words.toList ++
    ": ".toList ++ e.path.quoted ++
    (match e.target with
      | none => []
      | some t => " -> ".toList ++ t.quoted)

/-! ## unusable documents -/

/-- What is wrong with a document that does not hold what it should.  Where a library found that
out, `remark` is what it says of the document, parts of which it may quote. -/
inductive Flaw where
  /-- The text is not of the document format. -/
  | malformed (remark : Text := [])
  /-- The document is not an object. -/
  | notAnObject
  /-- Some fields are unknown or hold unsuitable values. -/
  | rejected (fields : List Text) (remark : Text := [])
  deriving DecidableEq, Repr

/-- The flaw, with a remark of the library that found it. -/
def Flaw.withRemark (remark : Text) : Flaw → Flaw
  | .malformed _ => .malformed remark
  | .notAnObject => .notAnObject
  | .rejected fields _ => .rejected fields remark

/-- The formats a settings document can have. -/
inductive DocumentFormat where
  | json
  | yaml
  deriving DecidableEq, Repr

/-! ## faults -/

/-- A reason for stopping short. -/
inductive Fault where
  /-- An Ex command was refused. -/
  | command (error : CommandError)
  /-- A command was told to write to a read-only register. -/
  | readonlyRegister (name : Text)
  /-- A numeral has more digits than are ever converted. -/
  | numeralTooLong (digits : Nat)
  /-- A pattern repeats something more often than can be counted. -/
  | repetitionTooLarge
  /-- A pattern is to take letters of the first 128 characters only, and of all. -/
  | incompatibleOptions
  /-- A path or an argument holds a NUL character. -/
  | embeddedNul
  /-- An item was asked for that a list does not have. -/
  | noSuchItem
  /-- The home directory of a user is not known. -/
  | noHome
  /-- A path without a last part was to get another one. -/
  | noFileName (path : Path)
  /-- A document is nested too deeply to be read. -/
  | nestedTooDeeply (what : String)
  /-- More calls would be open inside one another than the runtime allows. -/
  | tooManyCalls
  /-- A date in a document is none of the calendar. -/
  | noSuchDate (what : Text)
  /-- A value that a document says is a date is not written as one. -/
  | notADate
  /-- A value that a document says is a truth value is no word for one. -/
  | notAWord (word : Text)
  /-- A value that a document says is an integer is no numeral in the given base. -/
  | notAnInteger (base : Nat) (numeral : Text)
  /-- A value that a document says is a number is no numeral. -/
  | notANumber (numeral : Text)
  /-- A value that a document says is a number has no digits. -/
  | noDigits
  /-- An integer is beyond the numbers with fractions. -/
  | integerTooLarge
  /-- Bytes are no text. -/
  | undecodable (error : Utf8.DecodeError)
  /-- The operating system refused. -/
  | os (error : OsError)
  /-- The history file holds no history. -/
  | badHistory (flaw : Flaw)
  /-- The history file is of another version; `shown` is the version it names. -/
  | unsupportedSchema (shown : Text)
  /-- The history was already loaded. -/
  | alreadyLoaded
  /-- The settings file holds no settings. -/
  | badSettings (format : DocumentFormat) (flaw : Flaw)
  /-- A text for the console closes a tag that is not open; `tag` is what the bracket holds. -/
  | unopenedTag (tag : Text) (position : Nat)
  /-- A command from outside the library failed in a way of its own. -/
  | foreign (kind : String) (message : Text)
  deriving DecidableEq, Repr

/-- A remark behind the wording of a fault. -/
def remarkText (remark : Text) : Text := if remark = [] then [] else ": ".toList ++ remark

namespace Fault

/-- The Ex command error that a fault is, if it is one. -/
def asCommandError? : Fault → Option CommandError
  | .command e => some e
  | .readonlyRegister name => some ⟨.invalidRegisterName, '\'' :: name ++ ['\'']⟩
  | _ => none

/-- The wording of a fault. -/
def message : Fault → Text
  | .command e => e.message
  | .readonlyRegister name => CommandError.message ⟨.invalidRegisterName, '\'' :: name ++ ['\'']⟩
  | .numeralTooLong digits =>
    "Exceeds the limit (4300 digits) for integer string conversion: value has ".toList ++
      Text.ofNat digits ++
      " digits; use sys.set_int_max_str_digits() to increase the limit".toList
  | .repetitionTooLarge => "the repetition number is too large".toList
  | .incompatibleOptions => "ASCII and UNICODE flags are incompatible".toList
  | .embeddedNul => "embedded null byte".toList
  | .noSuchItem => "list index out of range".toList
  | .noHome => "Could not determine home directory.".toList
  | .noFileName path => "PosixPath(".toList ++ path.text.quoted ++ ") has an empty name".toList
  | .nestedTooDeeply what => what.toList
  | .tooManyCalls => "maximum recursion depth exceeded".toList
  | .noSuchDate what => what
  | .notADate => "'NoneType' object has no attribute 'groupdict'".toList
  | .notAWord word => word.quoted
  | .notAnInteger base numeral =>
    "invalid literal for int() with base ".toList ++ Text.ofNat base ++ ": ".toList ++
      numeral.quoted.take 200
  | .notANumber numeral => "could not convert string to float: ".toList ++ numeral.quoted
  | .noDigits => "string index out of range".toList
  | .integerTooLarge => "int too large to convert to float".toList
  | .undecodable e => e.message
  | .os e => e.message
  | .badHistory (.malformed remark) => "Invalid history JSON".toList ++ remarkText remark
  | .badHistory .notAnObject => "Invalid history payload: expected JSON object.".toList
  | .badHistory (.rejected _ remark) => "Invalid history payload".toList ++ remarkText remark
  | .unsupportedSchema shown =>
    "Unsupported history schema version: ".toList ++ shown ++ ". Expected 1.".toList
  | .alreadyLoaded => "Command-line history is already loaded.".toList
  | .badSettings .json (.malformed remark) =>
    "Invalid global config JSON".toList ++ remarkText remark
  | .badSettings .yaml (.malformed remark) =>
    "Invalid global config YAML".toList ++ remarkText remark
  | .badSettings _ .notAnObject => "Invalid global config payload: root must be an object".toList
  | .badSettings _ (.rejected _ remark) =>
    "Invalid global config payload".toList ++ remarkText remark
  | .unopenedTag tag position =>
    "closing tag '[".toList ++ tag ++ "]' at position ".toList ++ Text.ofNat position ++
      (if tag = ['/'] then " has nothing to close".toList else " doesn't match any open tag".toList)
  | .foreign _ message => message

/-- Whether the history file is at fault, so that moving it aside helps. -/
def isBadHistory : Fault → Bool
  | .badHistory _ => true
  | .unsupportedSchema _ => true
  | _ => false

/-- Whether the settings file is at fault. -/
def isBadSettings : Fault → Bool
  | .badSettings _ _ => true
  | _ => false

/-- A fault about a document, with what a library says of the document. -/
def withRemark (remark : Text) : Fault → Fault
  | .badHistory flaw => .badHistory (flaw.withRemark remark)
  | .badSettings format flaw => .badSettings format (flaw.withRemark remark)
  | fault => fault

end Fault

/-- The value of a run of digits, refused when it is too long to be converted. -/
def Text.readNumeral (t : Text) : Except Fault Nat := t.numeral.mapError .numeralTooLong

/-- The path with a leading `~` or `~user` replaced by a home directory; `unknown` is the fault when
nobody of that name has one.  Nobody can even be asked about whose name holds a NUL character. -/
def Path.expandHome (homes : List (Text × Text)) (unknown : Fault) (p : Path) :
    Except Fault Path :=
  match p.expandHome? homes with
  | some q => .ok q
  | none => .error (if (p.parts.head?.getD []).contains '\x00' then .embeddedNul else unknown)

end ExMode
