import CallWire.Proofs.BetweenOperations
import CallWire.Proofs.ServerSteps

/-! What a server does between two sessions. After one that ended cleanly it goes on with the same listener; after one that
failed it takes the path again, which its channel has given up. A server that serves once gives up the path for good. -/

namespace CallWire

/-- How a server ends that serves one session only. -/
def servedOnce (result : Except ChannelError Unit) : Except Failure Unit := result.mapError (.channel "session failed")

/-- Connecting to a path where a socket could be made is refused. -/
theorem Host.HasRoom.connect {host : Host} {path : String} (room : host.HasRoom path) :
    ∃ error, host.connect path = (.error error, host) := by
  obtain ⟨-, clean, short, ⟨place, vacant⟩, -⟩ := room
  obtain ⟨leads, nothing⟩ := FileTree.vacancy_eq_ok.mp vacant
  have missing : host.files.lookup path = .error .noSuchFile := by
    simp only [FileTree.lookup, leads, nothing]
  have refused : ∃ error, host.connectTo path = (.error error, host) := by
    simp only [Host.connectTo, clean, Bool.false_eq_true, if_false, if_neg (Nat.not_le.mpr short), missing]
    split
    · exact ⟨_, rfl⟩
    · exact ⟨_, rfl⟩
  obtain ⟨error, refused⟩ := refused
  rw [Host.connect, refused]
  exact ⟨_, rfl⟩

/-- With a listener the connections go that nobody accepted. -/
theorem Host.dropListener_reset {host : Host} {l : ListenerId} :
    (host.dropListener l).links =
      ((host.listener l).backlog.foldl (fun host s => host.onLink s (Link.close true)) host).links := by
  have reset (waiting : List SocketId) (first second : Host) (same : first.links = second.links) :
      (waiting.foldl (fun host s => host.onLink s (Link.close true)) first).links =
        (waiting.foldl (fun host s => host.onLink s (Link.close true)) second).links := by
    induction waiting generalizing first second with
    | nil => exact same
    | cons s rest ih =>
      apply ih
      simp only [onLink, setLink, link, same]
  unfold dropListener closeListener
  dsimp only
  split
  · split
    · exact reset _ _ _ rfl
    · rfl
  · rfl

namespace Server
variable {server : Server} {host : Host} {l : ListenerId} {waiting : List SocketId}

/-- The server is not told to stop, and its channel listens at the path, without a peer. -/
structure Listens (server : Server) (host : Host) (l : ListenerId) (waiting : List SocketId) : Prop where
  going : server.ended = none
  unstopped : server.isStopped = false
  state : server.session.channel.state = .listening l none
  config : server.session.channel.config = {}
  listens : host.Listens server.path l waiting
  unrequested : server.session.channel.shutdownHandle.isRequested host = false
  inactive : (host.control server.session.channel.control).active = none
  known : server.session.channel.control < host.controls.length

/-- The session failed, and its channel has given up the path. -/
structure HasFailed (server : Server) (host : Host) : Prop where
  going : server.ended = none
  unstopped : server.isStopped = false
  state : server.session.channel.state = .closed
  room : host.HasRoom server.path

/-- Nobody is being served. -/
inductive Idle (server : Server) (host : Host) : Prop
  | fresh {l : ListenerId} (phase : server.session.phase = .arriving) (listens : server.Listens host l [])
  | parted {l : ListenerId} (phase : server.session.phase = .finished (.ok ())) (listens : server.Listens host l [])
  | failed {error} (phase : server.session.phase = .finished (.error error)) (failed : server.HasFailed host)
  | ended {result} (phase : server.session.phase = .finished result) (ended : server.ended = some (servedOnce result))
      (room : host.HasRoom server.path)

theorem step_keeps (server : Server) (host : Host) :
    (server.step host).1.path = server.path ∧ (server.step host).1.once = server.once := by
  unfold step
  split
  · exact ⟨rfl, rfl⟩
  · split
    · unfold afterSession proceed finish
      dsimp only
      split
      · split
        · exact ⟨rfl, rfl⟩
        · split
          · exact ⟨rfl, rfl⟩
          · exact ⟨rfl, rfl⟩
      · split
        · exact ⟨rfl, rfl⟩
        · split
          · exact ⟨rfl, rfl⟩
          · split
            · exact ⟨rfl, rfl⟩
            · exact ⟨rfl, rfl⟩
    · exact ⟨rfl, rfl⟩

section
variable (listens : server.Listens host l waiting) (phase : server.session.phase = .finished (.ok ()))
include listens phase

/-- A server goes on to the next session with the listener that it has. -/
theorem Listens.step_again (again : server.once = false) :
    server.step host = ({ server with session := .start server.session.channel () }, host) ∧
      ({ server with session := .start server.session.channel () } : Server).Listens host l waiting := by
  have isOpen : server.session.channel.isClosed = false := by rw [Channel.isClosed, listens.state]
  refine ⟨?_, { listens with }⟩
  rw [step_of_finished listens.going phase]
  simp only [afterSession, isOpen, again, Bool.or_self, Bool.false_eq_true, if_false, proceed, listens.unstopped]

/-- After the only session the server gives up the path, and resets whoever came meanwhile. -/
theorem Listens.step_once (once : server.once = true) :
    ∃ next after, server.step host = (next, after) ∧ next.session.phase = .finished (.ok ()) ∧
      next.ended = some (servedOnce (.ok ())) ∧ after.HasRoom server.path ∧
      after.links = (waiting.foldl (fun host s => host.onLink s (Link.close true)) host).links := by
  have silent : host.unregister server.session.channel.control = host := by
    rw [Host.unregister, listens.inactive]
  have closed : server.session.channel.close host = ({ server.session.channel with state := .closed }, host.dropListener l) := by
    simp only [Channel.close, listens.state, silent]
  have stepped : server.step host =
      ({ server with
          ended := some (.ok ())
          session := { server.session with channel := { server.session.channel with state := .closed } } },
        host.dropListener l) := by
    rw [step_of_finished listens.going phase]
    simp only [afterSession, once, Bool.or_true, if_true, finish, closed]
  refine ⟨_, _, stepped, phase, rfl, listens.listens.drop, ?_⟩
  rw [Host.dropListener_reset, listens.listens.backlog]

end

/-- The path is the server's as soon as it is bound. -/
theorem listens_of_bind {channel : Channel} {after : Host} (tidy : host.Tidy)
    (bound : Channel.bind server.path host = (.ok channel, after)) (going : server.ended = none)
    (unstopped : server.isStopped = false) :
    (∃ l, ({ server with session := .start channel () } : Server).Listens after l []) ∧ after.links = host.links := by
  obtain ⟨l, rfl, listens, links, controls⟩ := Host.bind_listens tidy bound
  have own : after.control host.controls.length = { listenPath := some server.path } := by
    rw [Host.control, controls]
    exact host.control_newControl { listenPath := some server.path }
  refine ⟨⟨l, going, unstopped, rfl, rfl, listens, ?_, ?_, ?_⟩, links⟩
  · exact congrArg Control.isRequested own
  · exact congrArg Control.active own
  · rw [controls, List.length_append]
    exact Nat.lt_succ_self host.controls.length

/-- A server takes the path again that its channel has given up. -/
theorem HasFailed.step_again (failed : server.HasFailed host) {error : ChannelError}
    (phase : server.session.phase = .finished (.error error)) (again : server.once = false) :
    ∃ channel after l, server.step host = ({ server with session := .start channel () }, after) ∧
      ({ server with session := .start channel () } : Server).Listens after l [] ∧ after.links = host.links := by
  obtain ⟨channel, after, bound⟩ := failed.room.bind
  obtain ⟨⟨l, listens⟩, links⟩ := listens_of_bind failed.room.tidy bound failed.going failed.unstopped
  have closed : server.session.channel.close host = (server.session.channel, host) := by
    simp only [Channel.close, failed.state]
  refine ⟨channel, after, l, ?_, listens, links⟩
  rw [step_of_finished failed.going phase]
  simp only [afterSession, again, Bool.false_eq_true, if_false, closed, bound, proceed, failed.unstopped]

theorem HasFailed.step_once (failed : server.HasFailed host) {error : ChannelError}
    (phase : server.session.phase = .finished (.error error)) (once : server.once = true) :
    server.step host = ({ server with ended := some (servedOnce (.error error)) }, host) := by
  have closed : server.session.channel.close host = (server.session.channel, host) := by
    simp only [Channel.close, failed.state]
  rw [step_of_finished failed.going phase]
  simp only [afterSession, once, if_true, finish, closed]
  rfl

/-- Without a peer there is nothing to do. -/
theorem Listens.step_waits (listens : server.Listens host l []) (phase : server.session.phase = .arriving) :
    server.step host = (server, host) := by
  rw [step_of_session listens.going (by simp [phase])]
  simp only [Session.step, phase, Session.arrive, listens.state, Host.accept, listens.listens.backlog]

/-- Nothing happens to connections while nobody is served. -/
theorem Idle.step (idle : server.Idle host) :
    (server.step host).1.Idle (server.step host).2 ∧ (server.step host).2.links = host.links ∧
      (server.once = true → (server.step host).1.session.phase = server.session.phase) ∧
      (server.once = false → server.ended = none → (server.step host).1.ended = none) := by
  obtain ⟨path, -⟩ := server.step_keeps host
  cases idle with
  | fresh phase listens =>
    rw [listens.step_waits phase]
    exact ⟨.fresh phase listens, rfl, fun _ => rfl, fun _ => id⟩
  | parted phase listens =>
    cases once : server.once with
    | false =>
      obtain ⟨stepped, listens⟩ := listens.step_again phase once
      rw [stepped]
      exact ⟨.fresh rfl listens, rfl, nofun, fun _ => id⟩
    | true =>
      obtain ⟨next, after, stepped, still, ended, room, links⟩ := listens.step_once phase once
      rw [stepped] at path ⊢
      exact ⟨.ended still ended (path ▸ room), links, fun _ => still.trans phase.symm, nofun⟩
  | failed phase failed =>
    cases once : server.once with
    | false =>
      obtain ⟨channel, after, l, stepped, listens, links⟩ := failed.step_again phase once
      rw [stepped]
      exact ⟨.fresh rfl listens, links, nofun, fun _ => id⟩
    | true =>
      rw [failed.step_once phase once]
      exact ⟨.ended phase rfl failed.room, rfl, fun _ => rfl, nofun⟩
  | ended phase ended room =>
    rw [step_of_ended (by simp [ended])]
    exact ⟨.ended phase ended room, rfl, fun _ => rfl, fun _ => id⟩

theorem Idle.step_waits (idle : server.Idle host) (turned : server.ended.isSome ∨ server.session.phase = .arriving) :
    server.step host = (server, host) := by
  cases idle with
  | fresh phase listens => exact listens.step_waits phase
  | ended _ ended => exact step_of_ended (by simp [ended])
  | parted phase listens | failed phase listens => simp [phase, listens.going] at turned

/-- When a session is over the server ends or begins another. -/
theorem Idle.step_turns (idle : server.Idle host) :
    (server.step host).1.ended.isSome ∨ (server.step host).1.session.phase = .arriving := by
  cases idle with
  | fresh phase listens =>
    rw [listens.step_waits phase]
    exact .inr phase
  | parted phase listens =>
    cases once : server.once with
    | false =>
      rw [(listens.step_again phase once).1]
      exact .inr rfl
    | true =>
      obtain ⟨next, after, stepped, -, ended, -⟩ := listens.step_once phase once
      rw [stepped]
      exact .inl (by simp [ended])
  | failed phase failed =>
    cases once : server.once with
    | false =>
      obtain ⟨channel, after, l, stepped, -⟩ := failed.step_again phase once
      rw [stepped]
      exact .inr rfl
    | true =>
      rw [failed.step_once phase once]
      exact .inl rfl
  | ended _ ended =>
    rw [step_of_ended (by simp [ended])]
    exact .inl (by simp [ended])

theorem Listens.of_same {after : Host} (listens : server.Listens host l waiting) (paths : host.SamePaths after)
    (controls : after.controls = host.controls) : server.Listens after l waiting := by
  have control : after.control server.session.channel.control = host.control server.session.channel.control := by
    rw [Host.control, controls]
    rfl
  exact ⟨listens.going, listens.unstopped, listens.state, listens.config, listens.listens.of_same paths,
    (congrArg Control.isRequested control).trans listens.unrequested,
    (congrArg Control.active control).trans listens.inactive, controls ▸ listens.known⟩

theorem Listens.enqueue (listens : server.Listens host l waiting) :
    server.Listens (host.enqueue l).2 l (waiting ++ [⟨host.links.length, true⟩]) :=
  { listens with listens := listens.listens.enqueue }

/-- A server that was started listens at its path. -/
theorem start_listens {path : String} {once : Bool} {after : Host} (tidy : host.Tidy)
    (started : start path once host = (.ok server, after)) :
    server.path = path ∧ server.once = once ∧ server.session.phase = .arriving ∧
      (∃ l, server.Listens after l []) ∧ after.links = host.links := by
  unfold start at started
  rcases bound : Channel.bind path host with ⟨_ | channel, listening⟩
  · rw [bound] at started
    cases started
  · rw [bound] at started
    cases started
    exact ⟨rfl, rfl, rfl, @listens_of_bind ⟨path, once, .start channel (), false, none⟩ host channel after tidy bound rfl rfl⟩

theorem Idle.of_same {after : Host} (idle : server.Idle host) (paths : host.SamePaths after)
    (controls : after.controls = host.controls) : server.Idle after := by
  cases idle with
  | fresh phase listens => exact .fresh phase (listens.of_same paths controls)
  | parted phase listens => exact .parted phase (listens.of_same paths controls)
  | failed phase failed =>
    exact .failed phase ⟨failed.going, failed.unstopped, failed.state, failed.room.of_same paths⟩
  | ended phase ended room => exact .ended phase ended (room.of_same paths)

end Server
end CallWire
