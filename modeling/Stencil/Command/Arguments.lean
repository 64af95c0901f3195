/-! # Command-line arguments

The command line names an action, a template file and options. An option takes its value from the
same argument or from the next one, and may be given once. Behind `--` there are files only.
-/

namespace Stencil.Command

/-- What is to be done with a template. -/
inductive Action where
  | render (data output : Option String)
  | check
deriving DecidableEq, Repr

/-- A command line that has been understood. -/
structure Arguments where
  template : String
  config : Option String
  syntaxMode : Bool
  action : Action
deriving DecidableEq, Repr

/-- An option. -/
inductive Setting where
  | data
  | config
  | output
  | syntaxMode
deriving DecidableEq, Repr

namespace Setting

/-- The name of an option behind two dashes. -/
def long : Setting → String
  | data => "data"
  | config => "config"
  | output => "output"
  | syntaxMode => "syntax"

/-- The name of an option behind one dash. -/
def short? : Setting → Option Char
  | data => some 'd'
  | config => some 'c'
  | output => some 'o'
  | syntaxMode => none

/-- Whether an option has a value. -/
def takesValue : Setting → Bool
  | syntaxMode => false
  | _ => true

end Setting

/-- What has been collected from a command line: the values of the options that were given, and
the file. A flag has an empty value. -/
structure Collected where
  values : List (Setting × String)
  file : Option String

namespace Collected

/-- Adds a file; there is only one, and its name is not empty. -/
def addFile (c : Collected) (name : String) : Option Collected :=
  match c.file with
  | some _ => none
  | none => if name = "" then none else some { c with file := some name }

/-- Adds an option, which may be given once. -/
def addValue (c : Collected) (setting : Setting) (value : String) : Option Collected :=
  if (c.values.lookup setting).isSome then none
  else some { c with values := (setting, value) :: c.values }

/-- Adds an option whose value must not be empty. -/
def addNonempty (c : Collected) (setting : Setting) (value : String) : Option Collected :=
  if value = "" then none else c.addValue setting value

end Collected

/-- What an argument is, seen by itself. -/
inductive Shape where
  | file
  | filesFollow
  | flag (setting : Setting)
  | valued (setting : Setting) (value : String)
  /-- An option whose value is the next argument. -/
  | awaiting (setting : Setting)
  | unknown
deriving DecidableEq, Repr

namespace Shape

/-- The shape of an argument behind two dashes. -/
def ofLong (allowed : List Setting) (cs : List Char) : Shape :=
  let name := String.ofList (cs.takeWhile (· ≠ '='))
  match allowed.find? (·.long = name), cs.dropWhile (· ≠ '=') with
  | none, _ => unknown
  | some setting, [] => if setting.takesValue then awaiting setting else flag setting
  | some setting, _ :: value =>
    if setting.takesValue then valued setting (String.ofList value) else unknown

/-- The shape of an argument behind one dash: a letter and a value, which may have an equals sign
before it. -/
def ofShort (allowed : List Setting) (c : Char) (rest : List Char) : Shape :=
  match allowed.find? (·.short? = some c), rest with
  | none, _ => unknown
  | some setting, [] => awaiting setting
  | some setting, '=' :: value => valued setting (String.ofList value)
  | some setting, value => valued setting (String.ofList value)

/-- The shape of an argument. -/
def ofArgument (allowed : List Setting) (argument : String) : Shape :=
  match argument.toList with
  | ['-', '-'] => filesFollow
  | '-' :: '-' :: cs => ofLong allowed cs
  | '-' :: c :: rest => ofShort allowed c rest
  | _ => file

end Shape

/-- Whether an argument can be the value of the option before it: it does not look like an option
itself. -/
def isValue (argument : String) : Bool :=
  match argument.toList with
  | '-' :: _ :: _ => false
  | _ => true

/-- Collects options and the file from arguments. -/
def collect (allowed : List Setting) : Collected → List String → Option Collected
  | c, [] => some c
  | c, argument :: rest =>
    match Shape.ofArgument allowed argument with
    | .file => (c.addFile argument).bind fun c => collect allowed c rest
    | .filesFollow => rest.foldlM Collected.addFile c
    | .flag setting => (c.addValue setting "").bind fun c => collect allowed c rest
    | .valued setting value =>
      (c.addNonempty setting value).bind fun c => collect allowed c rest
    | .awaiting setting =>
      match rest with
      | [] => none
      | value :: rest =>
        if isValue value then
          (c.addNonempty setting value).bind fun c => collect allowed c rest
        else none
    | .unknown => none

/-- Understands the arguments behind the name of the action. -/
def Arguments.ofRest? (allowed : List Setting) (action : Collected → Action)
    (arguments : List String) : Option Arguments := do
  let c ← collect allowed ⟨[], none⟩ arguments
  let template ← c.file
  some
    { template
      config := c.values.lookup .config
      syntaxMode := (c.values.lookup .syntaxMode).isSome
      action := action c }

/-- Understands a command line. -/
def Arguments.parse? : List String → Option Arguments
  | "render" :: rest =>
    ofRest? [.data, .config, .output, .syntaxMode]
      (fun c => .render (c.values.lookup .data) (c.values.lookup .output)) rest
  | "check" :: rest => ofRest? [.config, .syntaxMode] (fun _ => .check) rest
  | _ => none

end Stencil.Command
