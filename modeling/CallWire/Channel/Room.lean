import CallWire.Channel.Session

/-!
Room for bytes on their way. A connection holds so many bytes in each direction that were written
and not read. What is written beyond them is still with the writer, whose call to write has not
returned: it is held until enough was read, and whoever made it does nothing else meanwhile. If its
time is over or the far end leaves, it fails, and the bytes without room are never sent.
-/

namespace CallWire

/-- The bytes that a socket holds for the other side unless it is told otherwise. -/
def socketBuffer : Nat := 212992

namespace Link

/-- The last call to write at the near end has not returned. -/
def isHeld (room : Nat) (l : Link) : Bool := room < l.far.inbox.length

def giveUp (room : Nat) (l : Link) : Link :=
  { l with far := { l.far with inbox := l.far.inbox.take room } }

/-- What has become of the last call to write. An interruption only makes it be made again. -/
def resume (room : Nat) (l : Link) : Outcome Unit × Link :=
  if l.isHeld room then
    match l.near.writeTurns with
    | .fails error :: rest =>
      if error.isInterruption then (.waiting, l)
      else
        (.done (.error (.io error)), giveUp room { l with near := { l.near with writeTurns := rest } })
    | _ => if l.far.isEnded then (.done (.error (.io .brokenPipe)), l.giveUp room) else (.waiting, l)
  else
    (.done (.ok ()), l)

end Link

namespace Channel

/-- The channel's last call to send has not returned. -/
def isHeld (room : Nat) (channel : Channel) (host : Host) : Bool :=
  channel.connection?.any fun c => (host.link c.socket).isHeld room

/-- What has become of the last call to send. One that fails closes the channel. -/
def resume (room : Nat) (channel : Channel) (host : Host) : Outcome Unit × Channel × Host :=
  match channel.connection? with
  | none => (.done (.ok ()), channel, host)
  | some c =>
    match (host.link c.socket).resume room with
    | (.done (.error error), link) =>
      (.done (.error error), channel.fail error (host.setLink c.socket link))
    | (outcome, _) => (outcome, channel, host)

end Channel

namespace Session

variable {ρ : Type}

/-- A step, unless the session is still sending a reply. -/
def proceed (room : Nat) (handler : Handler ρ) (session : Session ρ) (host : Host) :
    Pace × Session ρ × Host :=
  match session.channel.connection? with
  | none => session.step handler host
  | some c =>
    match (host.link c.socket).resume room with
    | (.waiting, _) => (.waits, session, host)
    | (.done (.ok _), _) => session.step handler host
    | (.done (.error error), link) =>
      (.moves, { session with phase := .failing error }, host.setLink c.socket link)

/-- Go on for at most so many steps, or until the session has to wait or is over. -/
def proceedFor (room : Nat) (handler : Handler ρ) : Nat → Session ρ → Host → Session ρ × Host
  | 0, session, host => (session, host)
  | steps + 1, session, host =>
    match proceed room handler session host with
    | (.moves, session, host) => proceedFor room handler steps session host
    | (.waits, session, host) => (session, host)

/-- Go on until the session is over, or has to wait for bytes or for room. -/
def goOn (room : Nat) (handler : Handler ρ) (session : Session ρ) (host : Host) :
    Outcome Unit × Session ρ × Host :=
  let (session, host) := proceedFor room handler (session.stepBound host) session host
  match session.phase with
  | .finished result => (.done result, session, host)
  | _ => (.waiting, session, host)

end Session
end CallWire
