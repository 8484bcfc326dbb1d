import CallWire.Proofs.StoppedChannel
import CallWire.Proofs.UntouchedSessions

/-! How far a shutdown handle reaches: to the stream of its channel, or else to whoever listens by now at the path to
which its channel was bound. Channels that keep to other ground do the same as without it. -/

namespace CallWire

namespace Host
variable {ground : Ground} {host other after : Host} {path : String} {s : SocketId} {c : ControlId} {l : ListenerId}

/-- Whoever has connected to a path waits at a listener to which it leads. -/
theorem connectTo_leads (connected : host.connectTo path = (.ok s, after)) :
    ∃ l, host.LeadsTo path l ∧ host.enqueue l = (s, after) := by
  unfold connectTo at connected
  split at connected
  · cases connected
  · rename_i clean
    split at connected
    · cases connected
    · split at connected
      · cases connected
      · split at connected
        · cases connected
        · rename_i entry present
          split at connected
          · rename_i l socket holder
            refine ⟨l, ⟨entry, ?_, socket, holder⟩, ?_⟩
            · rw [inspectPath, if_neg clean, present]
            · obtain ⟨taken, rfl⟩ := Prod.mk.inj connected
              cases taken
              rfl
          · cases connected

namespace Alike
variable (alike : host.Alike ground other)
include alike

theorem setControl_apart (apart : ¬ ground.control c) (control : Control) : host.Alike ground (other.setControl c control) := by
  refine ⟨alike.links, alike.listeners, fun c' inside => ?_, alike.files, alike.active, alike.backlog⟩
  have differs : c ≠ c' := fun same => apart (same ▸ inside)
  simp only [Host.setControl, List.getElem?_set_ne differs, alike.controls c' inside]

theorem shutdown_apart (apart : ¬ ground.connection s.connection) (direction : Direction) :
    host.Alike ground (other.shutdown s direction) := by
  refine ⟨fun i inside => ?_, alike.listeners, alike.controls, alike.files, alike.active, alike.backlog⟩
  have differs : s.connection ≠ i := fun same => apart (same ▸ inside)
  simp only [Host.shutdown, Host.onLink, Host.setLink, List.getElem?_set_ne differs, alike.links i inside]

theorem knocked_apart (apart : ¬ ground.listener l) (inRange : ∀ i, ground.connection i → i < other.links.length) :
    host.Alike ground (other.knocked l) := by
  refine ⟨fun i inside => ?_, fun l' inside => ?_, alike.controls, alike.files, alike.active, alike.backlog⟩
  · simp only [Host.knocked, List.getElem?_append_left (inRange i inside), alike.links i inside]
  · have differs : l ≠ l' := fun same => apart (same ▸ inside)
    simp only [Host.knocked, List.getElem?_set_ne differs, alike.listeners l' inside]

end Alike
end Host

namespace ShutdownHandle
variable {handle : ShutdownHandle} {ground : Ground} {host after : Host}

/-- What comes of telling a channel to stop. -/
inductive Reaches (handle : ShutdownHandle) (host : Host) : Host → Prop
  | nobody : Reaches handle host (handle.request host)
  | stream {s : SocketId} (active : (host.control handle.control).active = some s) :
      Reaches handle host ((handle.request host).shutdown s .both)
  | listener {path : String} {l : ListenerId} (silent : (host.control handle.control).active = none)
      (known : (host.control handle.control).listenPath = some path) (leads : host.LeadsTo path l) :
      Reaches handle host ((handle.request host).knocked l)

theorem listenPath_request (handle : ShutdownHandle) (host : Host) :
    ((handle.request host).control handle.control).listenPath = (host.control handle.control).listenPath := by
  rw [request, Host.control_setControl]
  split
  · rfl
  · rfl

theorem shutdown_reaches (handle : ShutdownHandle) (host : Host) : handle.Reaches host (handle.shutdown host) := by
  cases active : (host.control handle.control).active with
  | some s =>
    rw [shutdown_of_active active]
    exact .stream active
  | none =>
    have silent := (handle.request_keeps handle.control host).active.trans active
    have path := handle.listenPath_request host
    simp only [shutdown, interrupt, silent, knock, Host.connect]
    cases known : (host.control handle.control).listenPath with
    | none =>
      simp only [path, known]
      exact .nobody
    | some path' =>
      simp only [path, known]
      rcases (handle.request host).connectTo_cases path' with ⟨error, refused⟩ | ⟨_, connected⟩
      · simp only [refused, Except.mapError]
        exact .nobody
      · obtain ⟨l, leads, entered⟩ := Host.connectTo_leads connected
        have released := (handle.request host).release_enqueue l
        rw [entered] at released
        simp only [connected, Except.mapError, released]
        exact .listener active known leads

/-- What the handle has to do with is elsewhere: its control, the stream of its channel, and the listener to which its
path leads. -/
structure IsApart (handle : ShutdownHandle) (ground : Ground) (host : Host) : Prop where
  control : ¬ ground.control handle.control
  stream : ∀ s, (host.control handle.control).active = some s → ¬ ground.connection s.connection
  listener : (host.control handle.control).active = none →
    ∀ path l, (host.control handle.control).listenPath = some path → host.LeadsTo path l → ¬ ground.listener l

theorem Reaches.alike (reaches : handle.Reaches host after) (apart : handle.IsApart ground host)
    (closed : host.Alike ground host) (inRange : ∀ i, ground.connection i → i < host.links.length) :
    host.Alike ground after := by
  have noted : host.Alike ground (handle.request host) := closed.setControl_apart apart.control _
  cases reaches with
  | nobody => exact noted
  | stream active => exact noted.shutdown_apart (apart.stream _ active) .both
  | listener silent known leads => exact noted.knocked_apart (apart.listener silent _ _ known leads) inRange

/-- Wherever a channel has got to, telling another to stop makes no difference to it, unless it has to do with that
channel's stream or listens where that channel's path leads. The hosts are alike to it, and whatever it does from then
on, its peers and those who have its handle with it, it does with the same answers; only whether it is told to stop at a
time at which its handle has to knock is left out. -/
theorem leaves_others {role : ChannelRole} {path : String} {before host : Host} {made : Channel}
    (done : role.make path before = (.ok made, host)) {o : Course} (run : Course.Run (Host.Keeps made.control) ⟨.idle made, host⟩ o)
    (keeps : o.activity.KeepsTo ground) (closed : o.host.Alike ground o.host)
    (inRange : ∀ i, ground.connection i → i < o.host.links.length) (apart : handle.IsApart ground o.host) :
    o.host.Alike ground (handle.shutdown o.host) ∧
      ∀ (deeds : List ChannelDeed) (activity : Activity),
        (∃ after, Course.Does ground made.control deeds ⟨o.activity, handle.shutdown o.host⟩ ⟨activity, after⟩) ↔
          ∃ after, Course.Does ground made.control deeds o ⟨activity, after⟩ := by
  obtain ⟨start, now⟩ := o
  have orderly := run.orderly (ChannelRole.make_orderly done)
  have alike := (handle.shutdown_reaches now).alike apart closed inRange
  have orderly' := orderly.keeps (handle.shutdown_keeps made.control now)
  refine ⟨alike, fun deeds activity => ⟨?_, ?_⟩⟩
  · rintro ⟨after, does⟩
    obtain ⟨after', does', -⟩ := does.alike keeps orderly' alike.symm
    exact ⟨after', does'⟩
  · rintro ⟨after, does⟩
    obtain ⟨after', does', -⟩ := does.alike keeps orderly alike
    exact ⟨after', does'⟩

/-- The client that has connected to the path `s`. -/
def clientGround : Ground := ⟨(· = 0), fun _ => False, (· = 1)⟩

/-- A listener is told to stop before it has accepted its first client. -/
theorem leaves_client_to_itself :
    let handle : ShutdownHandle := ⟨0⟩
    let host := clientHost []
    ChannelRole.connecting.make "s" listeningHost = (.ok client, host) ∧ handle.IsApart clientGround host ∧
      ((handle.shutdown host).listener 0).backlog = [⟨0, true⟩, ⟨1, true⟩] ∧ host.Alike clientGround (handle.shutdown host) ∧
      ∀ (deeds : List ChannelDeed) (activity : Activity),
        (∃ after, Course.Does clientGround 1 deeds ⟨.idle client, handle.shutdown host⟩ ⟨activity, after⟩) ↔
          ∃ after, Course.Does clientGround 1 deeds ⟨.idle client, host⟩ ⟨activity, after⟩ := by
  intro handle host
  have keeps : client.KeepsTo clientGround := by
    refine ⟨rfl, fun c connected => ?_, nofun⟩
    cases connected
    rfl
  have closed : host.Alike clientGround host := by
    refine ⟨fun _ _ => rfl, nofun, fun _ _ => rfl, rfl, fun c s inside active => ?_, nofun⟩
    obtain rfl : c = 1 := inside
    cases active
    rfl
  have apart : handle.IsApart clientGround host := ⟨nofun, nofun, fun _ _ _ _ _ => id⟩
  have inRange : ∀ i, clientGround.connection i → i < host.links.length := by
    rintro _ rfl
    exact Nat.zero_lt_one
  have spared := leaves_others make_client .refl (o := ⟨.idle client, host⟩) keeps closed inRange apart
  exact ⟨make_client, apart, by cbv, spared.1, spared.2⟩

/-- A channel was bound to the path `s` and closed, and another is bound there now. -/
def succeededHost : Host :=
  { listeners := [{ path := "s", inode := 1, isOpen := false }, { path := "s", inode := 2 }]
    files := [⟨["s"], 2, .socket, defaultSocketMode⟩], lastInode := 2
    controls := [{ listenPath := some "s" }, { listenPath := some "s" }] }

def former : Channel := ⟨.closed, "s", {}, 0⟩

def successor : Channel := ⟨.listening 1 none, "s", {}, 1⟩

/-- Somebody connects to the path, sends a request and ends the stream. -/
def visited (host : Host) (request : Message) : Host :=
  match host.connect "s" with
  | (.ok s, host) => (host.onLink s fun l => (l.write (frameOf request.bytes)).2).shutdown s .writing
  | (.error _, host) => host

/-- Answers every request and keeps it in mind. -/
def recording : Handler (List Message) := fun requests m => (requests ++ [m], [.place (.response m.callId [])])

/-- A handle of a closed channel queues a connection at the listener that has the path now. The channel there takes it
for a peer, and returns without having served the visitor whom it serves otherwise. -/
theorem shutdown_reaches_successor :
    let told := former.shutdownHandle.shutdown succeededHost
    let request := Message.request 7 2 3 []
    (∃ bound host, Channel.bind "s" {} = (.ok bound, host) ∧ (bound.close host).1 = former ∧
      Channel.bind "s" (bound.close host).2 = (.ok successor, succeededHost)) ∧
    (succeededHost.listener 1).backlog = [] ∧ (told.listener 1).backlog = [⟨0, true⟩] ∧
      (successor.accept recording [] (visited succeededHost request)).2.1.memory = [request] ∧
      (successor.accept recording [] (visited told request)).1 = .done (.ok ()) ∧
      (successor.accept recording [] (visited told request)).2.1.memory = [] := by
  refine ⟨⟨⟨.listening 0 none, "s", {}, 0⟩, listeningHost, ?_, ?_, ?_⟩, ?_, ?_, ?_, ?_, ?_⟩
  all_goals cbv

end ShutdownHandle
end CallWire
