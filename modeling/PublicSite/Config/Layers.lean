import PublicSite.Failure
import PublicSite.Config.Place
import PublicSite.Config.Reader
import PublicSite.Toml.Reader

/-!
# Layers of configuration

The settings come from a file and from environment variables, which win.  The
file must be there and hold a table; how its text is read is left to a reader of
files, and one for TOML and JSON stands here.
A variable counts when its name begins with a fixed word; what follows names the
place of the setting, two underscores leading into a section.  Names of variables
ignore case.  The text of a variable becomes a truth value, a whole number or a
fraction if it can be read as one.
-/

namespace PublicSite.Config

open PublicSite.Text PublicSite.Decimal PublicSite.Json

/-- Why no configuration was loaded. -/
inductive LoadCause where
  | missing
  /-- The file holds no table that can be read, for a reason that its reader tells. -/
  | unreadable (reason : String)
  /-- The settings are not of the types that they must have. -/
  | misshapen
  deriving DecidableEq, Repr

instance : Cause LoadCause where
  headline _ := "Config error"
  detail
    | .missing => "configuration file not found"
    | .unreadable reason => reason
    | .misshapen => "settings of other types"

/-! ## The environment -/

/-- What the names of variables that count begin with. -/
def variablePrefix : String := "sprouts__"

/-- A letter made small.  Of the letters beyond ASCII only the sign for the kelvin has a
small letter that the name of a setting can hold. -/
def smallLetter (char : Char) : Char :=
  if char == '\u212A' then 'k' else char.toLower

/-- The name of a variable in small letters. -/
def smallName (name : String) : List Char :=
  name.toList.map smallLetter

/-- Write a point for every two underscores. -/
def pointSections : List Char → List Char
  | '_' :: '_' :: rest => '.' :: pointSections rest
  | char :: rest => char :: pointSections rest
  | [] => []

/-- A character that separates the words of a name. -/
def separatesWords (char : Char) : Bool :=
  char == '_' || char == '-' || char == ' '

/-- A word ends between a letter and a digit. -/
def changesClass (left right : Char) : Bool :=
  (left.isLower && right.isDigit) || (left.isDigit && right.isLower)

/-- Separate letters from digits. -/
def separateDigits : List Char → List Char
  | left :: right :: rest =>
      if changesClass left right then left :: '_' :: separateDigits (right :: rest)
      else left :: separateDigits (right :: rest)
  | chars => chars

/-- The words of a name with one underscore between them. -/
def snakeCase (chars : List Char) : List Char :=
  join ['_'] ((fields separatesWords chars).map separateDigits)

/-- The key that the name of a variable stands for, if the variable counts. -/
def variableKey? (name : String) : Option String :=
  let lower := smallName name
  if variablePrefix.toList.isPrefixOf lower then
    some (String.ofList (snakeCase (pointSections (lower.drop variablePrefix.toList.length))))
  else none

/-- A whole number that fits 64 bits with a sign. -/
def readWord? (chars : List Char) : Option Int :=
  let (negative, digits) := splitSign chars
  if digits.isEmpty || !digits.all Char.isDigit then none
  else
    let magnitude : Int := decimalValue digits
    let value := if negative then -magnitude else magnitude
    if -0x8000000000000000 ≤ value ∧ value < 0x8000000000000000 then some value else none

/-- The value that the text of a variable stands for. -/
def variableValue (text : String) : Value :=
  let chars := text.toList
  if sameIgnoringCase chars "true".toList then .bool true
  else if sameIgnoringCase chars "false".toList then .bool false
  else
    match readWord? chars with
    | some value => .integer value
    | none =>
        match readDouble? chars with
        | some value => .float value
        | none => .text text

/-- The settings that variables make, as keys and values. -/
def overrides (environment : List (String × String)) : List (String × Value) :=
  environment.filterMap fun (name, text) =>
    (variableKey? name).map fun key => (key, variableValue text)

/-! ## The file -/

mutual

/-- The value with whole numbers beyond 64 bits with a sign made doubles. -/
def narrow : Value → Value
  | .integer value =>
      if value < 0x8000000000000000 then .integer value else .float (Float.ofInt value)
  | .array items => .array (narrowItems items)
  | .object members => .object (narrowMembers members)
  | value => value

/-- `narrow` on each item. -/
def narrowItems : List Value → List Value
  | [] => []
  | item :: rest => narrow item :: narrowItems rest

/-- `narrow` on the value of each member. -/
def narrowMembers : List (String × Value) → List (String × Value)
  | [] => []
  | (name, value) :: rest => (name, narrow value) :: narrowMembers rest

end

/-- A file: the extension of its name, and what it holds. -/
structure File where
  extension : String
  text : String

/-- A reader of files: the keys and values of the table that a file holds, in the order in
which it is gone through, or the reason why there is none. -/
abbrev FileReader := File → Except String (List (String × Value))

/-- The members of a table.  A table has no order, so they come in the order of their names. -/
def asTable : Option Value → Except String (List (String × Value))
  | none => .error "not well formed"
  | some value =>
      match value.ordered with
      | .object members => .ok members
      | _ => .error "no table of settings"

/-- The reader of TOML and JSON. -/
def File.read : FileReader := fun file =>
  match file.extension with
  | "toml" => asTable (Toml.parse? file.text)
  | "json" => asTable ((Value.parse? file.text).map narrow)
  | _ => .error "of no known format"

/-! ## Loading -/

/-- The tree of layers, each laid over the ones before it. -/
def layered (settings : List (String × Value)) : Value :=
  settings.foldl (fun tree setting => put setting.1 setting.2 tree) (.object [])

/-- Load the configuration from a file, with a reader of such files, and the environment. -/
def loadBy (read : FileReader) (file : Option File) (environment : List (String × String)) :
    Except (Failure LoadCause) Config :=
  match file with
  | none => inContext "Failed to build config" (failWith .missing)
  | some file =>
      match read file with
      | .error reason => inContext "Failed to build config" (failWith (.unreadable reason))
      | .ok settings =>
          match ofValue? (layered (settings ++ overrides environment)) with
          | none => inContext "Failed to deserialize config" (failWith .misshapen)
          | some config => .ok config

/-- Load the configuration from a file in TOML or JSON and the environment. -/
def load (file : Option File) (environment : List (String × String)) :
    Except (Failure LoadCause) Config :=
  loadBy File.read file environment

end PublicSite.Config
