import CallWire.Channel.Session

/-!
Handlers laid down in advance: one action for each request in turn, and an echo of the arguments for
every request after that. The handler remembers what it was asked.
-/

namespace CallWire

inductive ScriptedAction
  | echo
  | silence
  | value (e : Encodable)
  | message (m : Message)
  /-- Reply to the call after this one. -/
  | wrongId
  /-- Reply, and then think better of it. -/
  | twice
  /-- Reply, and then take the reply back. -/
  | withdrawn
  /-- Reply, and stop the channel. -/
  | shutdown
  deriving DecidableEq

structure HandlerScript where
  pending : List ScriptedAction
  requests : List Message := []
  deriving DecidableEq

/-- A response with the bytes of a request's arguments. -/
def echoOf (request : Message) : Message :=
  Message.response request.callId (request.args.toOption.getD [])

/-- A response with a value; one that cannot be encoded makes no reply. -/
def replyWith (request : Message) (e : Encodable) : List HandlerAction :=
  match Message.buildResponse request.callId e with
  | .ok m => [.place m]
  | .error _ => []

def ScriptedAction.perform (request : Message) : ScriptedAction → List HandlerAction
  | echo => [.place (echoOf request)]
  | silence => []
  | value e => replyWith request e
  | message m => [.place m]
  | wrongId => [.place (Message.response (request.callId + 1) [0])]
  | twice => .place (echoOf request) :: replyWith request (.ofValue .text "second")
  | withdrawn => [.place (echoOf request), .withdraw]
  | shutdown => [.place (echoOf request), .shutdown]

namespace HandlerScript

def handler : Handler HandlerScript := fun script request =>
  let requests := script.requests ++ [request]
  match script.pending with
  | [] => (⟨[], requests⟩, ScriptedAction.echo.perform request)
  | action :: rest => (⟨rest, requests⟩, action.perform request)

end HandlerScript
end CallWire
