import PlanLint.Json.Read
import PlanLint.Service.Setting
import PlanLint.Text.Blank

/-! The options of the service, from a file or from the environment. -/

namespace PlanLint

/-- The options of the service. -/
structure ServiceOptions where
  /-- Repeated keys are no error. -/
  allowsRepeated : Bool := false
  /-- The most bytes that a document may have. -/
  sizeLimit : Nat := 1000000
  sizeLimit_pos : 0 < sizeLimit := by decide

/-- The options where none are given. -/
def defaultOptions : ServiceOptions := {}

/-- The name of the option that allows repeated keys. -/
def allowsRepeatedName : String := "allow_duplicate_keys"

/-- The name of the option that limits the size of documents. -/
def sizeLimitName : String := "max_document_bytes"

/-- A fault and the option that has it; a fault of the whole has no name. -/
structure OptionError where
  name : Option String
  fault : SettingFault
deriving DecidableEq, Repr

/-- Why no options can be had. -/
inductive OptionsFailure where
  /-- The file is no JSON. -/
  | json (e : JsonError) (text : List Char)
  | settings (errors : List OptionError)

/-- A positive integer. -/
def positiveSetting (j : Json) : Except SettingFault { n : Nat // 0 < n } :=
  match integerSetting j with
  | .error fault => .error fault
  -- The bound is checked once, and kept with the number.
  | .ok n => if h : 0 < n.toNat then .ok ⟨n.toNat, h⟩ else .error .notPositive

/-- The options that some members name; where a member is absent the default holds. All faults are
collected. -/
def optionsOf (allowsRepeated sizeLimit : Option Json) : Except OptionsFailure ServiceOptions :=
  -- A member that is absent has no fault.
  let allows := (allowsRepeated.map booleanSetting).getD (.ok defaultOptions.allowsRepeated)
  let limit := (sizeLimit.map positiveSetting).getD (.ok ⟨_, defaultOptions.sizeLimit_pos⟩)
  match allows, limit with
  | .ok allows, .ok limit => .ok ⟨allows, limit.1, limit.2⟩
  | .error fault, .ok _ => .error (.settings [⟨allowsRepeatedName, fault⟩])
  | .ok _, .error fault => .error (.settings [⟨sizeLimitName, fault⟩])
  | .error fault, .error other =>
    .error (.settings [⟨allowsRepeatedName, fault⟩, ⟨sizeLimitName, other⟩])

/-- A text in which all lines end with a newline alone. -/
def withNewlines : List Char → List Char
  | '\r' :: '\n' :: rest => '\n' :: withNewlines rest
  | '\r' :: rest => '\n' :: withNewlines rest
  | c :: rest => c :: withNewlines rest
  | [] => []

/-- The options in the text of a file. -/
def optionsOfFile (text : List Char) : Except OptionsFailure ServiceOptions :=
  -- The file is read as a text, so its line ends are newlines.
  let text := withNewlines text
  match Json.parse (some longestNumber) text with
  | .error e => .error (.json e text)
  | .ok (.obj members) =>
    let file := Json.obj members
    optionsOf (file.get? allowsRepeatedName) (file.get? sizeLimitName)
  | .ok _ => .error (.settings [⟨none, .notObject⟩])

/-- The variables of the environment that hold options. -/
structure Environment where
  allowsRepeated : Option String
  sizeLimit : Option String

/-- A word that switches an option on, blanks around it apart. -/
def isSwitchedOn (word : String) : Bool :=
  ["1", "true", "yes", "on"].contains (String.ofList (smallLetters (trim word.toList)))

/-- The options in the environment. -/
def optionsOfEnvironment (env : Environment) : Except OptionsFailure ServiceOptions :=
  -- A variable that is not set switches nothing on; the limit is read from its text.
  optionsOf (some (.bool (env.allowsRepeated.any isSwitchedOn))) (env.sizeLimit.map .str)

/-- The options in force: those of the file if there is one, else those of the environment. -/
def loadOptions (env : Environment) (file : Option (List Char)) : Except OptionsFailure ServiceOptions :=
  match file with
  | some text => optionsOfFile text
  | none => optionsOfEnvironment env

end PlanLint
