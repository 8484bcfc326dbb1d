import CallWire.Cli.Failure
import CallWire.Cli.Options
import CallWire.Cli.Summary
import CallWire.Scenario.Handler

/-!
The commands that talk to another program. Calling sends a request and then waits for the reply.
Serving echoes arguments, session after session; a session that fails closes the listener, and the
server binds anew. Both go on from where they have to wait.
-/

namespace CallWire

def CallOptions.request (o : CallOptions) : Except MessageError Message :=
  (o.args.foldl (fun builder a => builder.arg a.encodable)
    (RequestBuilder.start o.callId o.method o.object)).build

structure PendingCall where
  channel : Channel
  request : Message

def CallOptions.begin (o : CallOptions) (host : Host) : Except Failure PendingCall × Host :=
  match readDuration o.timeout with
  | .error error => (.error (.duration error), host)
  | .ok timeout =>
    match o.request with
    | .error error => (.error (.message "failed to build request" error), host)
    | .ok request =>
      let refused (error : ChannelError) (host : Host) : Except Failure PendingCall × Host :=
        (.error (.channel "connect failed" error), host)
      match Channel.connect o.path host with
      | (.error error, host) => refused error host
      | (.ok channel, host) =>
        let config : FrameConfig := { readTimeout := some timeout, writeTimeout := some timeout }
        match channel.withConfig config host with
        | (.error error, host) => refused error host
        | (.ok channel, host) =>
          match channel.send request host with
          | (.ok _, channel, host) => (.ok ⟨channel, request⟩, host)
          | (.error error, channel, host) =>
            (.error (.channel "call failed" error), (channel.close host).2)

def CallOptions.report (o : CallOptions) (reply : Message) : Except Failure Summary := do
  let value ←
    match o.returns with
    | none => pure none
    | some kind => (decodeReturn kind reply).map some
  (Summary.ofMessage reply value).mapError (.message "invalid reply")

inductive Progress (α : Type)
  | ended (result : Except Failure α)
  | waiting

/-- Take the reply, if it has come. The channel is closed before the reply is looked at. -/
def PendingCall.finish (call : PendingCall) (o : CallOptions) (host : Host) :
    Progress Summary × PendingCall × Host :=
  match call.channel.recvReply call.request host with
  | (.waiting, channel, host) => (.waiting, { call with channel }, host)
  | (.done result, channel, host) =>
    let (channel, host) := channel.close host
    let summary :=
      match result with
      | .error error => .error (.channel "call failed" error)
      | .ok reply => o.report reply
    (.ended summary, { call with channel }, host)

def echoHandler : Handler Unit := fun _ request => ((), [.place (echoOf request)])

structure Server where
  path : String
  once : Bool
  session : Session Unit
  isStopped : Bool := false
  ended : Option (Except Failure Unit) := none

namespace Server

def start (path : String) (once : Bool) (host : Host) : Except Failure Server × Host :=
  match Channel.bind path host with
  | (.error error, host) => (.error (.channel "bind failed" error), host)
  | (.ok channel, host) => (.ok { path, once, session := .start channel () }, host)

def finish (server : Server) (result : Except Failure Unit) (host : Host) : Server × Host :=
  let (channel, host) := server.session.channel.close host
  ({ server with ended := some result, session := { server.session with channel } }, host)

/-- Begin another session, unless the server was told to stop. -/
def proceed (server : Server) (channel : Channel) (host : Host) : Server × Host :=
  let server := { server with session := .start channel () }
  if server.isStopped then server.finish (.ok ()) host else (server, host)

def afterSession (server : Server) (result : Except ChannelError Unit) (host : Host) :
    Server × Host :=
  let channel := server.session.channel
  match result with
  | .ok _ =>
    if channel.isClosed || server.once then server.finish (.ok ()) host
    else server.proceed channel host
  | .error error =>
    if server.once then
      server.finish (.error (.channel "session failed" error)) host
    else
      let (_, host) := channel.close host
      match Channel.bind server.path host with
      | (.error error, host) => server.finish (.error (.channel "rebind failed" error)) host
      | (.ok channel, host) => server.proceed channel host

/-- Serve until there is nothing to do; `sessions` bounds the sessions that can end meanwhile. -/
def advance : Nat → Server → Host → Server × Host
  | 0, server, host => (server, host)
  | sessions + 1, server, host =>
    if server.ended.isSome then
      (server, host)
    else
      match server.session.run echoHandler host with
      | (.waiting, session, host) => ({ server with session }, host)
      | (.done result, session, host) =>
        let (server, host) := { server with session }.afterSession result host
        advance sessions server host

/-- Every session needs a connection of its own. -/
def run (server : Server) (host : Host) : Server × Host :=
  advance (host.links.length + 2) server host

def interrupt (server : Server) (host : Host) : Server × Host :=
  ({ server with isStopped := true }, server.session.channel.shutdownHandle.shutdown host)

end Server
end CallWire
