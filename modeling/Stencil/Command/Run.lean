import Stencil.Command.Arguments
import Stencil.Command.Disk
import Stencil.Command.LogFilter
import Stencil.Engine
import Stencil.Value.Json

/-! # Running a command

What a command line does: the messages that it logs, the text that it prints or the file that it
writes, each in its place among the others, and how it fails.
-/

namespace Stencil.Command

/-- Why a command fails. -/
inductive Failure where
  | config (error : ConfigError) (path : String)
  | templateUnreadable (path : String)
  | dataUnreadable (path : String)
  | dataInvalid (path : String)
  | notRendered (template : String)
  | notWritten (path : String)
  | notCompiled (template : String) (diagnostic : Diagnostic)

namespace Failure

/-- What a failure is about. The text about a configuration file is followed by words of the
system or of the document format. -/
def headline : Failure → String
  | config error path => error.verb ++ " " ++ path ++ " "
  | templateUnreadable path => "读取模板 " ++ path ++ " 失败"
  | dataUnreadable path => "读取数据文件 " ++ path ++ " 失败"
  | dataInvalid path => "解析数据文件 " ++ path ++ " 失败"
  | notRendered template => "渲染 " ++ template ++ " 失败"
  | notWritten path => "写入 " ++ path ++ " 失败"
  | notCompiled template diagnostic => "检查未通过：" ++ template ++ "\n" ++ diagnostic.message

end Failure

/-- A message in the log, and the part of the program that it comes from. -/
structure Note where
  target : String
  severity : Severity
  message : String

namespace Note

/-- The target of the messages of commands. -/
def commandTarget : String := "tplstr"

/-- The target of the messages of the engine. -/
def engineTarget : Event → String
  | .directive _ _ _ => "tplstr::tpl::scanner"
  | _ => "tplstr::tpl"

/-- The message of an event of the engine. -/
def ofEvent (e : Event) : Note := ⟨engineTarget e, e.severity, e.message⟩

/-- The same message in the form in which it is shown. -/
def tamed (n : Note) : Note := { n with message := String.ofList (Text.tame n.message.toList) }

/-- A message of a command. -/
def ofCommand (severity : Severity) (message : String) : Note := ⟨commandTarget, severity, message⟩

end Note

/-- Something that a command does. -/
inductive Step where
  | log (note : Note)
  /-- Prints to the standard output. -/
  | print (content : String)
  | write (path content : String)

namespace Step

/-- The message that a step logs. -/
def note? : Step → Option Note
  | log note => some note
  | _ => none

/-- The text that a step prints. -/
def printed? : Step → Option String
  | print content => some content
  | _ => none

/-- The file that a step writes, and its content. -/
def written? : Step → Option (String × String)
  | write path content => some (path, content)
  | _ => none

/-- A step under a log filter: a message that the filter does not show is left out, and any other
has the form in which it is shown. -/
def shown? (filter : LogFilter) : Step → Option Step
  | log note => if filter.shows note.target note.severity then some (log note.tamed) else none
  | step => some step

end Step

/-- The result of a command: what it does, in order, and how it fails after that, if it does. -/
structure Outcome where
  steps : List Step
  failure? : Option Failure

namespace Outcome

/-- A command that fails before it has done anything. -/
def failed (failure : Failure) : Outcome := ⟨[], some failure⟩

/-- The exit code of a command. -/
def exitCode (o : Outcome) : UInt32 :=
  match o.failure? with
  | some _ => 1
  | none => 0

/-- The messages that a command logs. -/
def notes (o : Outcome) : List Note := o.steps.filterMap Step.note?

/-- What a command prints to the standard output. -/
def printed (o : Outcome) : String := String.join (o.steps.filterMap Step.printed?)

/-- The files that a command writes, and their contents. -/
def written (o : Outcome) : List (String × String) := o.steps.filterMap Step.written?

/-- What a command does under a log filter. -/
def shown (filter : LogFilter) (o : Outcome) : Outcome :=
  { o with steps := o.steps.filterMap (Step.shown? filter) }

end Outcome

/-- The surroundings of a command. `logSetting` takes the place of the log level of the
configuration where it is set and can be read. -/
structure Surroundings where
  disk : Disk
  logSetting : Option String

/-- The configuration file that is used if there is one and none is named. -/
def defaultConfig : String := "tplstr.toml"

/-- The configuration of a command. -/
def loadConfig (disk : Disk) : Option String → Except Failure Config
  | some path => (Config.load (disk.read? path)).mapError (.config · path)
  | none =>
    if disk.present defaultConfig then
      (Config.load (disk.read? defaultConfig)).mapError (.config · defaultConfig)
    else .ok .standard

/-- The filter for the messages of a command. -/
def logFilter (setting : Option String) (config : Config) : LogFilter :=
  (setting.bind LogFilter.parse?).getD (LogFilter.parseLoose config.logLevel)

/-- The text of the template file. -/
def readTemplate (disk : Disk) (path : String) : Except Failure (List Char) :=
  match disk.read? path with
  | some content => .ok content.toList
  | none => .error (.templateUnreadable path)

/-- The data of a rendering; without a data file it is an object without fields. -/
def readData (disk : Disk) : Option String → Except Failure Value
  | none => .ok (.object [])
  | some path =>
    match disk.read? path with
    | none => .error (.dataUnreadable path)
    | some content =>
      match Json.parse Json.dataDepth content.toList with
      | some v => .ok v
      | none => .error (.dataInvalid path)

/-- Renders a template to a file or to the standard output. -/
def render (disk : Disk) (engine : Engine) (template : String) (data output : Option String) :
    Outcome :=
  let inputs : Except Failure (List Char × Value) := do
    let source ← readTemplate disk template
    let value ← readData disk data
    .ok (source, value)
  match inputs with
  | .error failure => .failed failure
  | .ok (source, value) =>
    let use := engine.compile source value
    let notes := use.events.map Note.ofEvent
    match use.result, output with
    | none, _ => ⟨notes.map .log, some (.notRendered template)⟩
    | some text, none => ⟨notes.map .log ++ [.print (String.ofList text)], none⟩
    | some text, some path =>
      if disk.canWrite path then
        let note := Note.ofCommand .info ("已写入 " ++ path)
        ⟨notes.map .log ++ [.write path (String.ofList text), .log note], none⟩
      else ⟨notes.map .log, some (.notWritten path)⟩

/-- The message about the settings under which a template is checked. -/
def settingsNote (engine : Engine) : Note :=
  let m := engine.signs.output
  .ofCommand .debug
    ("语法模式：" ++ (if engine.syntaxMode then "开启" else "关闭") ++ "，表达式标记："
      ++ String.ofList m.opening ++ " " ++ String.ofList m.closing ++ "，过滤器："
      ++ String.intercalate ", " engine.registry.names)

/-- The message about a template that was checked: how many segments of each sort it has. -/
def summaryNote (segments : List Segment) : Note :=
  let count (p : Segment → Bool) : String := toString (segments.countP p)
  let texts := count fun | .text _ => true | _ => false
  let outputs := count fun | .output _ => true | _ => false
  let statements := count fun | .statement _ _ => true | _ => false
  let comments := count fun | .comment _ => true | .silent => true | _ => false
  .ofCommand .info
    ("检查通过：" ++ texts ++ " 个文本，" ++ outputs ++ " 个表达式，" ++ statements ++ " 个语句，"
      ++ comments ++ " 个注释")

/-- Compiles a template and reports on its segments. -/
def check (disk : Disk) (engine : Engine) (template : String) : Outcome :=
  match readTemplate disk template with
  | .error failure => .failed failure
  | .ok source =>
    let use := engine.prepare source
    let notes := settingsNote engine :: use.events.map Note.ofEvent
    match use.result with
    | .error d => ⟨notes.map .log, some (.notCompiled template d)⟩
    | .ok made => ⟨(notes ++ [summaryNote made.compiled.segments]).map .log, none⟩

/-- The engine of a command: the syntax mode is on if the configuration or an option says so. -/
def engineFor (config : Config) (syntaxMode : Bool) : Engine :=
  .ofConfig { config with syntaxMode := config.syntaxMode || syntaxMode }

/-- Runs an understood command line; of the messages only those that are shown are left, in the form
in which they are shown. -/
def run (around : Surroundings) (arguments : Arguments) : Outcome :=
  match loadConfig around.disk arguments.config with
  | .error failure => .failed failure
  | .ok config =>
    let engine := engineFor config arguments.syntaxMode
    let outcome := match arguments.action with
      | .render data output => render around.disk engine arguments.template data output
      | .check => check around.disk engine arguments.template
    outcome.shown (logFilter around.logSetting config)

end Stencil.Command
