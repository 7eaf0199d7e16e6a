import NodeFit.Command.Host
import NodeFit.Document.Reader
import NodeFit.Path
import NodeFit.Text.Positional

/-!
# NodeFit.Command.Settings

Settings that commands fall back on where no option is given.

Settings come from a file below the home directory and from variables of the
environment, whose values win.  Names are read without regard to case in both places.
A file that cannot be read counts as one without settings; a file that is no JSON object
is refused, and so is a value of the wrong kind.

An option wins over a variable, a variable over the file, and the file over the usual value.  A
scalar of any kind may stand for a text (`scalarText?`), and a number or a word for a truth value
(`truth?`).  Values under other names are passed over.
-/

namespace NodeFit

/-! ## Formats of output -/

/-- How results are shown. -/
inductive OutputFormat where
  | table
  | json
deriving DecidableEq, Repr

def OutputFormat.ofName? : String → Option OutputFormat
  | "table" => some .table
  | "json" => some .json
  | _ => none

/-- The format that results are shown in by default. -/
def OutputFormat.usual : OutputFormat := .table

/-! ## Settings -/

/-- What can be set. -/
structure Settings where
  /-- The directory of the collected files. -/
  bundle : Option String
  /-- The name of the format of output. -/
  format : Option String
  /-- Whether entries are carried out at the same time. -/
  parallel : Bool
deriving DecidableEq, Repr

/-- Why there are no settings. -/
inductive SettingsError where
  /-- The file is no JSON object. -/
  | unreadable
  /-- A setting has a value of the wrong kind. -/
  | mistyped (name : String)
deriving DecidableEq, Repr

def SettingsError.message : SettingsError → String
  | .unreadable => "Failed to load configuration: the file is not a JSON object"
  | .mistyped name =>
    "Failed to parse configuration: the value of " ++ name ++ " is of a wrong kind"

namespace Settings

/-! ## Values -/

/-- The greatest integer that keeps all its digits when it is read as a text. -/
def maxInteger : Int := Nat.pow 2 63 - 1

/-- A scalar as a text.  An integer beyond the greatest one is rounded to a
floating-point number first. -/
def scalarText? : Json → Option String
  | .text s => some s
  | .bool true => some "true"
  | .bool false => some "false"
  | .int n =>
    if n ≤ maxInteger then some (Text.decimal n)
    else some (Text.positional (Text.Binary64.ofRatio n.toNat 1).toUInt64)
  | .float bits => some (Text.positional bits)
  | _ => none

/-- The truth value that a word in small letters stands for. -/
def truthOfWord? : String → Option Bool
  | "1" => some true
  | "true" => some true
  | "on" => some true
  | "yes" => some true
  | "0" => some false
  | "false" => some false
  | "off" => some false
  | "no" => some false
  | _ => none

/-- A scalar as a truth value.  A number is true unless it is zero. -/
def truth? : Json → Option Bool
  | .bool b => some b
  | .int n => some (n != 0)
  | .float bits => some (Text.Binary64.significand bits != 0)
  | .text s => truthOfWord? s.toLower
  | _ => none

/-- The setting of a text; null sets nothing. -/
def textSetting (values : Dictionary Json) (name : String) :
    Except SettingsError (Option String) :=
  match values.get? name with
  | none => .ok none
  | some .null => .ok none
  | some value =>
    match scalarText? value with
    | some s => .ok (some s)
    | none => .error (.mistyped name)

/-- The setting of a truth value, false by default. -/
def truthSetting (values : Dictionary Json) (name : String) : Except SettingsError Bool :=
  match values.get? name with
  | none => .ok false
  | some value =>
    match truth? value with
    | some b => .ok b
    | none => .error (.mistyped name)

def ofValues (values : Dictionary Json) : Except SettingsError Settings := do
  let bundle ← textSetting values "bundle"
  let format ← textSetting values "format"
  let parallel ← truthSetting values "parallel"
  return ⟨bundle, format, parallel⟩

/-! ## Sources -/

/-- The place of the file below the home directory. -/
def fileName : String := ".config/preflight/config.json"

/-- The path of the file; without a home directory there is none. -/
def path? (environment : Environment) : Option String :=
  match environment.lookup "HOME" with
  | some home => if home.isEmpty then none else some (Path.join home fileName)
  | none => none

/-- How the names of variables that are settings start, in small letters. -/
def variableStart : List Char := "preflight_".toList

/-- The value that a variable gives to a setting. -/
def ofVariable? (v : String × String) : Option (String × Json) :=
  let name := v.1.toLower.toList
  if variableStart.isPrefixOf name then
    some (String.ofList (name.drop variableStart.length), .text v.2)
  else none

def ofText (s : String) : Except SettingsError (List (String × Json)) :=
  match Json.parse? s with
  | some (.object fields) => .ok (fields.map fun field => (field.1.toLower, field.2))
  | _ => .error .unreadable

/-- The values in a file that may not be there. -/
def ofContents (contents : Except FileError Bytes) : Except SettingsError (List (String × Json)) :=
  match (contents.mapError ReadError.file).bind textOfBytes with
  | .ok s => ofText s
  | .error _ => .ok []

/-- The settings of a file and of the environment. -/
def load (contents : Except FileError Bytes) (environment : Environment) :
    Except SettingsError Settings := do
  let values ← ofContents contents
  ofValues (.ofList (values ++ environment.filterMap ofVariable?))

/-! ## Use -/

/-- The directory of the collected files, given an option that may name it. -/
def bundleOr (s : Settings) (given : Option String) : String :=
  (given <|> s.bundle).getD "."

/-- The format of output, given an option that may ask for one; otherwise the name of a
format that is none. -/
def formatOr (s : Settings) (given : Option OutputFormat) : Except String OutputFormat :=
  match given, s.format with
  | some format, _ => .ok format
  | none, none => .ok .usual
  | none, some name =>
    match OutputFormat.ofName? name.toLower with
    | some format => .ok format
    | none => .error name

end Settings
end NodeFit
