import MailboxSync.Text.Decimal
import MailboxSync.Text.Quoted

/-!
# Faults

A `Fault` is a failure outside the sync's own taxonomy: nothing in the engine handles it, it ends the run of the user
it occurs in.  `Fault.message` holds every wording.
-/

namespace MailboxSync

/-- The two stores of progress. -/
inductive StoreKind where
  | states
  | watermarks
  deriving DecidableEq, Repr, Inhabited

/-- What is done to a store. -/
inductive StoreAccess where
  | get
  | put
  deriving DecidableEq, Repr, Inhabited

/-- How a setting's text fails to be a value. -/
inductive SettingProblem where
  | notInteger
  | notFloat
  | notBoolean
  | notChoice
  deriving DecidableEq, Repr, Inhabited

/-- Why a text is no timestamp. -/
inductive TimestampProblem where
  | malformed (text : String)
  | yearOutOfRange (year : Nat)
  | monthOutOfRange
  | dayOutOfRange
  | hourOutOfRange
  | minuteOutOfRange
  | secondOutOfRange
  | offsetTooLarge (text : String)
  deriving DecidableEq, Repr, Inhabited

/-- Why octets cannot be decoded even with replacement; `name` is the name the character set was asked for by. -/
inductive CharsetProblem where
  | undefined (name : String)
  | idna (name : String)
  | asciiByte (byte : UInt8) (position : Nat)
  deriving DecidableEq, Repr, Inhabited

/-- A failure outside the sync's taxonomy. -/
inductive Fault where
  | broken (message : String)
  | storeRefused (store : StoreKind) (access : StoreAccess) (user : String)
  | dateOutOfRange
  | missingTable (table : String)
  | badTimestamp (problem : TimestampProblem)
  | unsupportedRequest (typeName : String)
  | numberTooLong
  | badValue (message : String)
  | embeddedNull
  | unknownEncoding (name : String)
  | conversionEncoding (name : String)
  | multibyteEncoding
  | charset (problem : CharsetProblem)
  | unreadableRequest
  | unknownLevel (name : String)
  | unknownBackend (name : String)
  | missingPath
  | badSettings (problems : List (String × SettingProblem))
  deriving DecidableEq, Repr, Inhabited

def StoreKind.name : StoreKind → String
  | .states => "states"
  | .watermarks => "watermarks"

def StoreAccess.name : StoreAccess → String
  | .get => "get"
  | .put => "put"

def SettingProblem.code : SettingProblem → String
  | .notInteger => "int_parsing"
  | .notFloat => "float_parsing"
  | .notBoolean => "bool_parsing"
  | .notChoice => "literal_error"

def TimestampProblem.message : TimestampProblem → String
  | .malformed text => "Invalid isoformat string: " ++ Text.quoted text
  | .yearOutOfRange year => s!"year {year} is out of range"
  | .monthOutOfRange => "month must be in 1..12"
  | .dayOutOfRange => "day is out of range for month"
  | .hourOutOfRange => "hour must be in 0..23"
  | .minuteOutOfRange => "minute must be in 0..59"
  | .secondOutOfRange => "second must be in 0..59"
  | .offsetTooLarge text =>
    "offset must be a timedelta strictly between -timedelta(hours=24) and timedelta(hours=24), not " ++ text

def CharsetProblem.message : CharsetProblem → String
  | .undefined name => s!"decoding with '{name}' codec failed (UnicodeError: undefined encoding)"
  | .idna name => s!"decoding with '{name}' codec failed (UnicodeError: Unsupported error handling replace)"
  | .asciiByte byte position =>
    s!"'ascii' codec can't decode byte 0x{Text.hexDigits 2 byte.toNat} in position {position}: ordinal not in range(128)"

def Fault.message : Fault → String
  | .broken message => message
  | .storeRefused store access user => s!"{store.name} {access.name} failed for {user}"
  | .dateOutOfRange => "date value out of range"
  | .missingTable table => s!"no such table: {table}"
  | .badTimestamp problem => problem.message
  | .unsupportedRequest typeName => s!"Unsupported request type {typeName}"
  | .numberTooLong =>
    s!"Exceeds the limit ({Decimal.maxDigits} digits) for integer string conversion; " ++
      "use sys.set_int_max_str_digits() to increase the limit"
  | .badValue message => message
  | .embeddedNull => "embedded null character"
  | .unknownEncoding name => s!"unknown encoding: {name}"
  | .conversionEncoding name =>
    s!"'{name}' is not a text encoding; use codecs.decode() to handle arbitrary codecs"
  | .multibyteEncoding => "multi-byte encodings are not supported"
  | .charset problem => problem.message
  | .unreadableRequest => "not well-formed"
  | .unknownLevel name => s!"Level '{name}' does not exist"
  | .unknownBackend name => s!"Unknown state backend: {name}"
  | .missingPath => "db_path is required for the sqlite backend"
  | .badSettings problems =>
    ";".intercalate ((problems.map fun p => s!"{p.1}:{p.2.code}").mergeSort (· ≤ ·))

end MailboxSync
