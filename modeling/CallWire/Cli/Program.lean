import CallWire.Cli.Display
import CallWire.Cli.Exchange
import CallWire.Cli.Inspect

/-!
The program as a whole: what it prints and the status it leaves behind. The commands that need no
other program are run here; the others are started, to go on from where they have to wait.
-/

namespace CallWire

def misuseStatus : Nat := 2

structure Output where
  status : Nat
  stdout : Bytes := []
  failure : Option String := none
  deriving DecidableEq, Repr

namespace Output

def ofFailure (f : Failure) : Output := ⟨f.status, [], some f.text⟩

def ofText (text : String) : Output := { status := successStatus, stdout := Bytes.ofText text }

def ofEnding : Ending → Output
  | .misuse _ => { status := misuseStatus }
  | .help => { status := successStatus }
  | .version => ofText (versionText false)

/-- A summary is shown as JSON where no format was asked for. -/
def ofSummary (format : Option OutputFormat) : Except Failure Summary → Output
  | .ok s => { status := successStatus, stdout := s.display (format.getD .json) }
  | .error f => ofFailure f

/-- The end of serving, which prints nothing. -/
def ofServing : Except Failure Unit → Output
  | .ok _ => { status := successStatus }
  | .error f => ofFailure f

/-- The lines of the failure message that say that it is one. -/
def errorLines (output : Output) : List String :=
  match output.failure with
  | none => []
  | some text => (s!"error: {text}".splitOn "\n").filter fun line => line.startsWith "error: "

end Output

inductive Running
  | ended (output : Output)
  /-- The request was sent and the reply has not come. -/
  | calling (format : Option OutputFormat) (options : CallOptions) (call : PendingCall)
  | serving (server : Server)

namespace Running

def start (arguments : List String) (host : Host) : Running × Host :=
  match Cli.readArguments arguments with
  | .error ending => (.ended (.ofEnding ending), host)
  | .ok ⟨format, command⟩ =>
    match command with
    | .version isExtended => (.ended (.ofText (versionText isExtended)), host)
    | .inspect hex decode => (.ended (.ofSummary format (inspectHex hex decode)), host)
    | .call options =>
      match options.begin host with
      | (.error f, host) => (.ended (.ofFailure f), host)
      | (.ok call, host) => (.calling format options call, host)
    | .serve path once =>
      match Server.start path once host with
      | (.error f, host) => (.ended (.ofFailure f), host)
      | (.ok server, host) => (.serving server, host)

def advance (running : Running) (host : Host) : Running × Host :=
  match running with
  | .ended output => (.ended output, host)
  | .calling format options call =>
    match call.finish options host with
    | (.ended result, _, host) => (.ended (.ofSummary format result), host)
    | (.waiting, call, host) => (.calling format options call, host)
  | .serving server =>
    let (server, host) := server.run host
    match server.ended with
    | some result => (.ended (.ofServing result), host)
    | none => (.serving server, host)

/-- The time that a waiting call was given is over. -/
def expire (running : Running) (host : Host) : Host :=
  match running with
  | .calling _ _ call =>
    call.channel.connection?.elim host fun c =>
      host.setEndpoint c.socket (host.endpoint c.socket).expire
  | _ => host

/-- Interrupt the program; only a server minds. -/
def interrupt (running : Running) (host : Host) : Running × Host :=
  match running with
  | .serving server =>
    let (server, host) := server.interrupt host
    (.serving server, host)
  | other => (other, host)

/-- Nobody else is there: let a call run out of time, and a server serve in vain. -/
def finishAlone (running : Running) (host : Host) : Output × Host :=
  let (running, host) := running.advance host
  let (running, host) := running.advance (running.expire host)
  let (running, host) := running.interrupt host
  match running.advance host with
  | (.ended output, host) => (output, host)
  | (_, host) => ({ status := internalStatus }, host)

end Running
end CallWire
