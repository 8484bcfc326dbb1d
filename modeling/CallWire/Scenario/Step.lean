import CallWire.Scenario.Basic
import CallWire.Text.Digits

/-!
The steps of a scenario and their answers. A step makes a named resource, uses one, or looks at the
files; whatever runs in the background comes to rest before the next step.
-/

namespace CallWire

inductive Operation
  | drop
  | path
  | debug
  | write (content : Bytes)
  | read
  | shutdown (direction : Direction)
  | timeouts (reading writing : Option Nat)
  | clone (as : String)
  | handle (as : String)
  | requestShutdown
  | isRequested
  | acceptRaw (as : String)
  | send (m : Message)
  | sendRaw (content : Bytes)
  | recv
  | call (request : Message)
  | close
  | state
  | address
  | config
  | withConfig (config : FrameConfig)
  | accept (actions : List ScriptedAction)
  | serve (actions : List ScriptedAction)
  | join

inductive FileOperation
  | exists
  | stat
  | writeFile
  | makeDirectory
  | remove
  /-- Leave the socket file of a listener that is gone. -/
  | leaveStale

inductive Step
  | bind (as path : String) (isPlain : Bool)
  | connect (as path : String) (isPlain : Bool)
  | listen (as path : String) (mode : Nat)
  | connectRaw (as path : String)
  | file (path : String) (operation : FileOperation)
  | use (name : String) (operation : Operation)

inductive Yield
  | nothing
  | flag (b : Bool)
  | text (text : String)
  | message (m : Message)
  | config (c : FrameConfig)
  | stat (mode : String) (isSocket : Bool)
  | arrived (content : Bytes) (ended : Except IoError Bool)

inductive Refusal
  | channel (error : ChannelError)
  | exchange (error : ChannelError)
  | transport (error : TransportError)
  | io (error : IoError)
  /-- The step would wait for ever. -/
  | stuck
  /-- There is no such resource, or it cannot do this. -/
  | misuse

structure Answer where
  result : Except Refusal Yield
  /-- Whether the channel is closed, and unless it is a plain one, whether it is connected. -/
  status : Option (Bool × Option Bool) := none
  requests : Option (List Message) := none

namespace Scenario

def answer (result : Except Refusal Yield) : Answer := { result }

def statusOf (channel : Channel) (isPlain : Bool) : Option (Bool × Option Bool) :=
  some (channel.isClosed, if isPlain then none else some channel.isConnected)

def nothingOr {ε : Type} (refuse : ε → Refusal) : Except ε Unit → Except Refusal Yield
  | .ok _ => .ok .nothing
  | .error error => .error (refuse error)

/-- Name what was made, or refuse. -/
def created {ε α : Type} (scenario : Scenario) (name : String) (refuse : ε → ChannelError)
    (resource : α → Resource) (made : Except ε α × Host) : Answer × Scenario :=
  let scenario := { scenario with host := made.2 }
  match made.1 with
  | .ok a => (answer (.ok .nothing), scenario.adopt name (resource a))
  | .error error => (answer (.error (.channel (refuse error))), scenario)

/-- Read all that has arrived; `calls` bounds the calls to read. -/
def drain : Nat → Bytes → Endpoint → Yield × Endpoint
  | 0, content, e => (.arrived content (.ok false), e)
  | calls + 1, content, e =>
    match e.read readChunkSize with
    | (.received [], e) => (.arrived content (.ok true), e)
    | (.received more, e) => drain calls (content ++ more) e
    | (.failed error, e) => (.arrived content (.error error), e)
    | (.waiting, e) => (.arrived content (.ok false), e)

/-- Write all bytes; `calls` bounds the calls to write. -/
def writeAll : Nat → Bytes → Link → Except IoError Unit × Link
  | _, [], l => (.ok (), l)
  | 0, _ :: _, l => (.error (.ofKind .writeZero), l)
  | calls + 1, content, l =>
    match l.write content with
    | (.accepted count, l) => writeAll calls (content.drop count) l
    | (.failed error, l) => (.error error, l)

/-- The result of an operation that may have had to wait. -/
def settled {α : Type} (yield : α → Yield) (refuse : ChannelError → Refusal) :
    Outcome α → Except Refusal Yield
  | .done (.ok a) => .ok (yield a)
  | .done (.error error) => .error (refuse error)
  | .waiting => .error .stuck

def refusalOf : ChannelError → Refusal
  | .io error => .io error
  | error => .channel error

def useStream (scenario : Scenario) (s : SocketId) (operation : Operation) : Answer × Scenario :=
  let host := scenario.host
  let refused := (answer (.error .misuse), scenario)
  match operation with
  | .write content =>
    match writeAll content.length content (host.link s) with
    | (.ok _, link) =>
      let (outcome, _, scenario) :=
        perform writeAttempt s { scenario with host := host.setLink s link }
      (answer (settled (fun _ => .nothing) refusalOf outcome), scenario)
    | (.error error, link) =>
      (answer (.error (.io error)), { scenario with host := host.setLink s link })
  | .read =>
    let e := host.endpoint s
    let (yield, e) := drain (e.weight + 2) [] e
    (answer (.ok yield), { scenario with host := host.setEndpoint s e })
  | .shutdown direction =>
    (answer (.ok .nothing), { scenario with host := host.shutdown s direction })
  | .timeouts reading writing =>
    let (result, host) := host.setTimeouts s reading writing
    (answer (nothingOr (fun e => .transport (.io e)) result), { scenario with host })
  | .clone name =>
    let scenario := { scenario with host := host.duplicate s }
    (answer (.ok .nothing), scenario.adopt name (.stream s))
  | .debug => (answer (.ok (.text "IpcStream \x7b type: \"unix\" \x7d")), scenario)
  | _ => refused

def useListener (scenario : Scenario) (l : ListenerId) (operation : Operation) : Answer × Scenario :=
  let path := (scenario.host.listener l).path
  match operation with
  | .path => (answer (.ok (.text path)), scenario)
  | .debug =>
    (answer (.ok (.text s!"UnixDomainSocket \x7b path: {quotedPath path} \x7d")), scenario)
  | .acceptRaw name =>
    match scenario.host.accept l with
    | (some s, host) =>
      (answer (.ok .nothing), ({ scenario with host } : Scenario).adopt name (.stream s))
    | (none, _) => (answer (.error .stuck), scenario)
  | _ => (answer (.error .misuse), scenario)

def useHandle (scenario : Scenario) (handle : ShutdownHandle) (operation : Operation) : Answer × Scenario :=
  let asked (scenario : Scenario) : Answer × Scenario :=
    (answer (.ok (.flag (handle.isRequested scenario.host))), scenario)
  match operation with
  | .requestShutdown => asked { scenario with host := handle.shutdown scenario.host }
  | .isRequested => asked scenario
  | _ => (answer (.error .misuse), scenario)

def reportSession (scenario : Scenario) (name : String) (isPlain : Bool) (outcome : Outcome Unit)
    (session : Session HandlerScript) : Answer × Scenario :=
  ({ result := settled (fun _ => .nothing) .channel outcome
     status := statusOf session.channel isPlain
     requests := some session.memory.requests },
    scenario.put name (.channel session.channel isPlain))

def useChannel (scenario : Scenario) (name : String) (channel : Channel) (isPlain : Bool)
    (operation : Operation) : Answer × Scenario :=
  let host := scenario.host
  let keep (result : Except Refusal Yield) (channel : Channel) (scenario : Scenario) :
      Answer × Scenario :=
    ({ result, status := statusOf channel isPlain }, scenario.put name (.channel channel isPlain))
  let sent (next : Except ChannelError Unit × Channel × Host)
      (andThen : Channel → Scenario → Answer × Scenario) : Answer × Scenario :=
    match next with
    | (.ok _, channel, host) =>
      match perform sendAttempt channel { scenario with host } with
      | (.done (.ok _), channel, scenario) => andThen channel scenario
      | (outcome, channel, scenario) => keep (settled (fun _ => .nothing) .exchange outcome) channel scenario
    | (.error error, channel, host) =>
      keep (.error (.exchange error)) channel { scenario with host }
  let received (act : Attempt Channel Message) (channel : Channel) (scenario : Scenario) :
      Answer × Scenario :=
    let (outcome, channel, scenario) := perform act channel scenario
    keep (settled .message .exchange outcome) channel scenario
  let shown (yield : Yield) : Answer × Scenario := keep (.ok yield) channel scenario
  match operation with
  | .send m => sent (channel.send m host) (keep (.ok .nothing))
  | .sendRaw content => sent (channel.sendRaw content host) (keep (.ok .nothing))
  | .recv => received recvAttempt channel scenario
  | .call request => sent (channel.send request host) (received (replyAttempt request))
  | .close =>
    let (channel, host) := channel.close host
    keep (.ok .nothing) channel { scenario with host }
  | .state => shown .nothing
  | .address => shown (.text channel.address)
  | .path => shown (.text channel.path)
  | .debug => shown (.text channel.debugText)
  | .config => shown (.config channel.config)
  | .withConfig config =>
    match channel.withConfig config host with
    | (.ok channel, host) =>
      (answer (.ok (.config channel.config)),
        ({ scenario with host } : Scenario).put name (.channel channel isPlain))
    | (.error error, host) =>
      (answer (.error (.channel error)), ({ scenario with host } : Scenario).forget name)
  | .handle as =>
    ({ result := .ok .nothing, status := statusOf channel isPlain },
      scenario.adopt as (.handle channel.shutdownHandle))
  | .accept actions =>
    let session := Session.start channel (⟨actions, []⟩ : HandlerScript)
    let (outcome, session, scenario) := perform sessionAttempt session scenario
    reportSession scenario name isPlain outcome session
  | .serve actions =>
    let session := Session.start channel (⟨actions, []⟩ : HandlerScript)
    (answer (.ok .nothing), scenario.put name (.serving session isPlain))
  | _ => (answer (.error .misuse), scenario)

def join (scenario : Scenario) (name : String) (session : Session HandlerScript) (isPlain : Bool) :
    Answer × Scenario :=
  let (outcome, session, scenario) := perform sessionAttempt session (scenario.forget name)
  reportSession scenario name isPlain outcome session

def use (scenario : Scenario) (name : String) : Operation → Answer × Scenario
  | .drop =>
    let (existed, scenario) := scenario.drop name
    (answer (.ok (.flag existed)), scenario)
  | operation =>
    match scenario.find? name, operation with
    | some (.listener l), operation => scenario.useListener l operation
    | some (.stream s), operation => scenario.useStream s operation
    | some (.handle handle), operation => scenario.useHandle handle operation
    | some (.channel channel isPlain), operation => scenario.useChannel name channel isPlain operation
    | some (.serving session isPlain), .join => scenario.join name session isPlain
    | _, _ => (answer (.error .misuse), scenario)

def useFile (scenario : Scenario) (path : String) (operation : FileOperation) : Answer × Scenario :=
  let host := scenario.host
  let make (kind : FileKind) (mode : Nat) : Answer × Scenario :=
    match host.files.vacancy path with
    | .ok place => (answer (.ok .nothing), { scenario with host := host.addFile place kind mode })
    | .error error => (answer (.error (.io error)), scenario)
  match operation, host.inspectPath path with
  | .exists, found => (answer (.ok (.flag found.toOption.isSome)), scenario)
  | .stat, .ok entry =>
    (answer (.ok (.stat (octalText (entry.mode % 0o1000)) (entry.kind == .socket))), scenario)
  | .writeFile, .ok entry =>
    match entry.kind with
    | .regular => (answer (.ok .nothing), scenario)
    | .directory => (answer (.error (.io (.ofErrno 21))), scenario)
    | .socket => (answer (.error (.io (.ofErrno 6))), scenario)
  | .writeFile, .error _ => make .regular newFileMode
  | .makeDirectory, _ => make .directory newSocketMode
  | .remove, .ok entry =>
    match entry.kind with
    | .directory => (answer (.error (.io (.ofErrno 21))), scenario)
    | .regular | .socket =>
      (answer (.ok .nothing),
        { scenario with host := { host with files := host.files.remove entry.place } })
  | .leaveStale, _ =>
    match host.openListener path newSocketMode with
    | (.ok l, host) => (answer (.ok .nothing), { scenario with host := host.closeListener l })
    | (.error error, _) => (answer (.error (.io error)), scenario)
  | _, .error error => (answer (.error (.io error)), scenario)

def act (scenario : Scenario) : Step → Answer × Scenario
  | .bind name path isPlain =>
    scenario.created name id (.channel · isPlain) (Channel.bind path scenario.host)
  | .connect name path isPlain =>
    scenario.created name id (.channel · isPlain) (Channel.connect path scenario.host)
  | .listen name path mode =>
    scenario.created name .transport .listener (scenario.host.bindWithMode path mode)
  | .connectRaw name path => scenario.created name .transport .stream (scenario.host.connect path)
  | .file path operation => scenario.useFile path operation
  | .use name operation => scenario.use name operation

/-- One step, after which the background comes to rest. -/
def step (scenario : Scenario) (s : Step) : Answer × Scenario :=
  let (answer, scenario) := scenario.act s
  (answer, scenario.settle)

def run (scenario : Scenario) : List Step → List Answer
  | [] => []
  | s :: rest =>
    let (answer, scenario) := scenario.step s
    answer :: scenario.run rest

end Scenario
end CallWire
