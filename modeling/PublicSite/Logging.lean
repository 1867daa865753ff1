import PublicSite.Failure
import PublicSite.Text.Ascii
import PublicSite.Text.Blank
import PublicSite.Text.Pieces

/-!
# Logging

What is logged is decided by a level and by a filter.  A level goes by its name or
its number.  A filter is a list of directives with commas between them; each
names a target, a span with its fields, or a level, and may end in an equals sign
and a level.
-/

namespace PublicSite

open PublicSite.Text

/-- How much is logged. -/
inductive LogLevel where
  | off
  | error
  | warn
  | info
  | debug
  | trace
  deriving DecidableEq, Repr

namespace LogLevel

/-- All levels; each has its place as its number. -/
def all : List LogLevel := [.off, .error, .warn, .info, .debug, .trace]

/-- The name of a level. -/
def code : LogLevel → String
  | .off => "off"
  | .error => "error"
  | .warn => "warn"
  | .info => "info"
  | .debug => "debug"
  | .trace => "trace"

/-- The number that a text stands for; a plus sign may precede it. -/
def number? (chars : List Char) : Option Nat :=
  let digits := match chars with
    | '+' :: rest => rest
    | _ => chars
  if digits.isEmpty || !digits.all Char.isDigit then none else some (decimalValue digits)

/-- The level with a name, in any case, or a number; the empty text means
errors. -/
def ofText? (chars : List Char) : Option LogLevel :=
  match number? chars with
  | some number => all[number]?
  | none =>
      if chars.isEmpty then some .error
      else all.find? fun level => sameIgnoringCase level.code.toList chars

/-- The level that is configured; one that is not known counts as `info`. -/
def ofConfig (text : String) : LogLevel :=
  (ofText? (trim text.toList)).getD .info

end LogLevel

/-! ## Filters -/

namespace LogFilter

/-- A directive while it is read.  Of a field and of the level, what was read of
them is kept, the last character first. -/
inductive Reading where
  | start
  | target
  | span
  | field (read : List Char)
  | afterFields
  | afterSpan
  | level (read : List Char)

/-- A directive may begin with this character. -/
def startsDirective (char : Char) : Bool :=
  char == '-' || char == ':' || char == '_' || char.isAlphanum || char.toNat ≥ 0x80

/-- Read one more character of a directive. -/
def step : Reading → Char → Option Reading
  | .start, char =>
      if char == '[' then some .span
      else if startsDirective char then some .target
      else none
  | .target, char =>
      if char == '=' then some (.level []) else if char == '[' then some .span else some .target
  | .span, char =>
      if char == ']' then some .afterSpan else if char == '\x7b' then some (.field [])
      else some .span
  | .field read, char =>
      if char == '\x7d' then (if read.isEmpty then none else some .afterFields)
      else some (.field (char :: read))
  | .afterFields, char => if char == ']' then some .afterSpan else none
  | .afterSpan, char => if char == '=' then some (.level []) else none
  | .level read, char => some (.level (char :: read))

/-- Read the characters of a directive. -/
def readAll : Reading → List Char → Option Reading
  | reading, [] => some reading
  | reading, char :: rest => (step reading char).bind fun next => readAll next rest

/-- A directive is well formed.  Blanks around it are ignored unless it has a
level. -/
def isDirective (chars : List Char) : Bool :=
  match readAll .start (trim chars) with
  | some .target => true
  | some .afterSpan => true
  | some (.level read) =>
      trim chars == chars && (read.isEmpty || (LogLevel.ofText? read.reverse).isSome)
  | _ => false

/-- A filter is well formed. -/
def isFilter (filter : String) : Bool :=
  (fields (· == ',') filter.toList).all isDirective

end LogFilter

/-! ## Starting -/

/-- Why nothing can be logged. -/
inductive LoggingCause where
  | invalid (message : String)
  /-- The directory for files cannot be created; the system says why. -/
  | directory (fault : String)
  deriving DecidableEq, Repr

instance : Cause LoggingCause where
  headline
    | .invalid _ => "Invalid logger configuration"
    | .directory _ => "Log directory error"
  detail
    | .invalid message => message
    | .directory fault => fault

/-- How logging is set up: the name of the program, how many files are kept, what
is filtered, whether there is a console, and where files are written. -/
structure LoggingSetup where
  name : String
  maxFiles : Nat := 10
  filter : Option String := none
  console : Bool := true
  directory : Option String := none
  deriving DecidableEq, Repr

namespace LoggingSetup

/-- Check a setup; `directoryFault` says why a directory cannot be created, if it
cannot. -/
def check (setup : LoggingSetup) (directoryFault : String → Option String) :
    Except (Failure LoggingCause) Unit := do
  if isBlank setup.name.toList then failWith (.invalid "Logger name cannot be empty")
  if setup.maxFiles = 0 then failWith (.invalid "max_files must be greater than zero")
  match setup.filter with
  | some filter =>
      if !LogFilter.isFilter filter then
        failWith (.invalid ("Invalid env filter '" ++ filter ++ "'"))
  | none => pure ()
  match setup.directory with
  | some directory =>
      match directoryFault directory with
      | some fault =>
          inContext ("Failed to create log directory " ++ directory)
            (failWith (.directory fault))
      | none => pure ()
  | none =>
      if !setup.console then
        failWith (.invalid "No logging layers enabled, turn on console or file output")

end LoggingSetup

end PublicSite
