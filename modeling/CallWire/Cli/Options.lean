import CallWire.Argument.Identifier
import CallWire.Cli.Level
import CallWire.Message.Basic

/-!
The commands of the program and their options. Options for output and logging can stand before or
behind the command; of two values the one behind it counts.
-/

namespace CallWire

inductive OutputFormat
  | json
  | table
  | pretty
  | raw
  deriving DecidableEq, Repr

def OutputFormat.ofName? : String → Option OutputFormat
  | "json" => some json
  | "table" => some table
  | "pretty" => some pretty
  | "raw" => some raw
  | _ => none

structure CallOptions where
  path : String
  method : UInt32
  object : UInt64
  callId : UInt16
  args : List Argument
  returns : Option ArgumentKind
  timeout : String

inductive Command
  | serve (path : String) (once : Bool)
  | call (options : CallOptions)
  | inspect (hex : String) (decode : Option ArgumentKind)
  | version (isExtended : Bool)

/-- A command and the format of its output, if one was asked for. -/
structure Invocation where
  format : Option OutputFormat
  command : Command

namespace Cli

structure Shared where
  format : Option OutputFormat := none
  logFormat : Option String := none
  logLevel : Option String := none

structure Draft where
  shared : Shared := {}
  operand : Option String := none
  once : Option Unit := none
  isExtended : Option Unit := none
  method : Option UInt32 := none
  object : Option UInt64 := none
  callId : Option UInt16 := none
  args : List Argument := []
  kind : Option ArgumentKind := none
  timeout : Option String := none

def single {σ α : Type} (name : String) (read? : String → Option α) (field : σ → Option α)
    (set : σ → α → σ) : String → σ → Except UsageError σ := fun text state =>
  match read? text with
  | none => .error (.invalidValue name text)
  | some value => setOnce name field set value state

def oneOf (choices : List String) (text : String) : Option String :=
  choices.find? (· == text)

def sharedOption? {σ : Type} (get : σ → Shared) (set : σ → Shared → σ) :
    String → Option (String → σ → Except UsageError σ)
  | "format" =>
    some (single "format" OutputFormat.ofName? (fun s => (get s).format)
      fun s format => set s { get s with format := some format })
  | "log-format" =>
    some (single "log-format" (oneOf ["text", "json"]) (fun s => (get s).logFormat)
      fun s text => set s { get s with logFormat := some text })
  | "log-level" =>
    some (single "log-level" (oneOf ["error", "warn", "info", "debug", "trace"])
      (fun s => (get s).logLevel) fun s text => set s { get s with logLevel := some text })
  | _ => none

def draftOption? : String → Option (String → Draft → Except UsageError Draft) :=
  sharedOption? Draft.shared fun draft shared => { draft with shared }

def noOption (_ : String) : Option (Draft → Except UsageError Draft) := none

def noOperand (text : String) (_ : Draft) : Except UsageError Draft :=
  .error (.unexpectedOperand text)

/-- A command has one operand. -/
def oneOperand (allowsEmpty : Bool) (text : String) (draft : Draft) : Except UsageError Draft :=
  if text = "" ∧ ¬ allowsEmpty then .error (.missingArgument "operand")
  else if draft.operand.isSome then .error (.unexpectedOperand text)
  else .ok { draft with operand := some text }

def kindOption (name : String) : String → Draft → Except UsageError Draft :=
  single name ArgumentKind.ofName? Draft.kind fun draft kind => { draft with kind := some kind }

def serveLevel : Level Draft where
  valued? := draftOption?
  flag? name :=
    if name = "once" then
      some (setOnce name Draft.once (fun draft _ => { draft with once := some () }) ())
    else none
  operand := oneOperand false

def callLevel : Level Draft where
  valued?
    | "method" => some (single "method" (fun text => (readMethodId text).toOption) Draft.method
        fun draft id => { draft with method := some id })
    | "object" => some (single "object" (fun text => (readObjectId text).toOption) Draft.object
        fun draft id => { draft with object := some id })
    | "call-id" => some (single "call-id" (fun text => (readCallId text).toOption) Draft.callId
        fun draft id => { draft with callId := some id })
    | "arg" => some fun text draft =>
        match Argument.ofText text with
        | .ok a => .ok { draft with args := draft.args ++ [a] }
        | .error _ => .error (.invalidValue "arg" text)
    | "returns" => some (kindOption "returns")
    | "timeout" => some (single "timeout" some Draft.timeout
        fun draft text => { draft with timeout := some text })
    | name => draftOption? name
  flag? := noOption
  operand := oneOperand false

def inspectLevel : Level Draft where
  valued?
    | "decode" => some (kindOption "decode")
    | name => draftOption? name
  flag? := noOption
  operand := oneOperand true

def versionLevel : Level Draft where
  valued? := draftOption?
  flag? name :=
    if name = "extended" then
      some (setOnce name Draft.isExtended (fun draft _ => { draft with isExtended := some () }) ())
    else none
  operand := noOperand

def commandNames : List String := ["serve", "call", "inspect", "version"]

def rootLevel : Level Shared where
  valued? := sharedOption? id fun _ shared => shared
  flag? _ := none
  operand text _ := .error (.unexpectedOperand text)
  showsVersion := true
  isCommand name := commandNames.contains name || name == "help"

def levelOf : String → Level Draft
  | "serve" => serveLevel
  | "call" => callLevel
  | "inspect" => inspectLevel
  | _ => versionLevel

def required {α : Type} (name : String) : Option α → Except UsageError α
  | some a => .ok a
  | none => .error (.missingArgument name)

def commandOf (name : String) (draft : Draft) : Except UsageError Command := do
  match name with
  | "serve" => return .serve (← required "path" draft.operand) draft.once.isSome
  | "call" =>
    return .call
      { path := ← required "path" draft.operand
        method := ← required "method" draft.method
        object := draft.object.getD rootObject
        callId := draft.callId.getD 1
        args := draft.args
        returns := draft.kind
        timeout := draft.timeout.getD "5s" }
  | "inspect" => return .inspect (← required "hex" draft.operand) draft.kind
  | _ => return .version draft.isExtended.isSome

/-- Asking for help about something needs its name. -/
def helpEnding : List String → Ending
  | [] => .help
  | [topic] =>
    if rootLevel.isCommand topic then .help else .misuse (.unexpectedOperand topic)
  | _ :: topic :: _ => .misuse (.unexpectedOperand topic)

def readArguments (arguments : List String) : Except Ending Invocation :=
  match rootLevel.read none arguments {} with
  | .error ending => .error ending
  | .ok (_, none) => .error (.misuse .missingCommand)
  | .ok (shared, some (name, rest)) =>
    if name = "help" then
      .error (helpEnding rest)
    else
      match (levelOf name).read none rest {} with
      | .error ending => .error ending
      | .ok (draft, _) =>
        match commandOf name draft with
        | .error error => .error (.misuse error)
        | .ok command => .ok ⟨draft.shared.format <|> shared.format, command⟩

end Cli
end CallWire
