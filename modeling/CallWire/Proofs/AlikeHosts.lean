import CallWire.Proofs.ListenerPaths
import CallWire.Proofs.RegisteredStream

/-! Hosts that are alike on some ground: some connections, listeners and controls that lead to no others. Whatever a
channel does that keeps to such a ground, it does in the same way on both, and they stay alike. -/

namespace CallWire

/-- Some connections, by their numbers, with some listeners and controls. -/
structure Ground where
  connection : Nat → Prop
  listener : ListenerId → Prop
  control : ControlId → Prop

namespace Host

/-- Two hosts have the same there, and the same files; and nothing there leads elsewhere. -/
structure Alike (ground : Ground) (host other : Host) : Prop where
  links : ∀ i, ground.connection i → other.links[i]? = host.links[i]?
  listeners : ∀ l, ground.listener l → other.listeners[l]? = host.listeners[l]?
  controls : ∀ c, ground.control c → other.controls[c]? = host.controls[c]?
  files : other.files = host.files
  active : ∀ c s, ground.control c → (host.control c).active = some s → ground.connection s.connection
  backlog : ∀ l, ground.listener l → ∀ s ∈ (host.listener l).backlog, ground.connection s.connection

end Host

namespace Ground

/-- Two results are the same but for hosts that are alike. -/
inductive Same (ground : Ground) {α : Type} : α × Host → α × Host → Prop
  | intro {a host other} (alike : host.Alike ground other) : Same ground (a, host) (a, other)

/-- So are two results of an operation on something that changes with it. -/
inductive Agrees (ground : Ground) {α β : Type} : α × β × Host → α × β × Host → Prop
  | intro {a b host other} (alike : host.Alike ground other) : Agrees ground (a, b, host) (a, b, other)

theorem Agrees.map {ground : Ground} {α β γ : Type} {result result' : α × β × Host} (agrees : ground.Agrees result result')
    (f : α → γ) : ground.Agrees (f result.1, result.2) (f result'.1, result'.2) := by
  cases agrees with
  | intro alike => exact .intro alike

end Ground

namespace Host
namespace Alike
variable {ground : Ground} {host other : Host} {s : SocketId} {c : ControlId} {l : ListenerId}

section
variable (alike : host.Alike ground other)
include alike

theorem link (inside : ground.connection s.connection) : other.link s = host.link s := by
  simp only [Host.link, List.getD_eq_getElem?_getD, alike.links _ inside]

theorem endpoint (inside : ground.connection s.connection) : other.endpoint s = host.endpoint s :=
  congrArg Link.near (alike.link inside)

theorem control (inside : ground.control c) : other.control c = host.control c := by
  simp only [Host.control, List.getD_eq_getElem?_getD, alike.controls _ inside]

theorem listener (inside : ground.listener l) : other.listener l = host.listener l := by
  simp only [Host.listener, List.getD_eq_getElem?_getD, alike.listeners _ inside]

theorem symm : other.Alike ground host := by
  refine ⟨fun i inside => (alike.links i inside).symm, fun l inside => (alike.listeners l inside).symm,
    fun c inside => (alike.controls c inside).symm, alike.files.symm, fun c s inside active => ?_, fun l inside s waits => ?_⟩
  · exact alike.active c s inside (alike.control inside ▸ active)
  · exact alike.backlog l inside s (alike.listener inside ▸ waits)

theorem trans {third : Host} (further : other.Alike ground third) : host.Alike ground third :=
  ⟨fun i inside => (further.links i inside).trans (alike.links i inside),
    fun l inside => (further.listeners l inside).trans (alike.listeners l inside),
    fun c inside => (further.controls c inside).trans (alike.controls c inside), further.files.trans alike.files,
    alike.active, alike.backlog⟩

theorem setLink (s : SocketId) (l : Link) : (host.setLink s l).Alike ground (other.setLink s l) := by
  refine ⟨fun i inside => ?_, alike.listeners, alike.controls, alike.files, alike.active, alike.backlog⟩
  simp only [Host.setLink, List.getElem?_set', alike.links i inside]

theorem onLink (inside : ground.connection s.connection) (change : Link → Link) :
    (host.onLink s change).Alike ground (other.onLink s change) := by
  simp only [Host.onLink, alike.link inside]
  exact alike.setLink s _

theorem setEndpoint (inside : ground.connection s.connection) (e : Endpoint) :
    (host.setEndpoint s e).Alike ground (other.setEndpoint s e) := alike.onLink inside _

theorem release (inside : ground.connection s.connection) : (host.release s).Alike ground (other.release s) :=
  alike.onLink inside _

theorem shutdown (inside : ground.connection s.connection) (direction : Direction) :
    (host.shutdown s direction).Alike ground (other.shutdown s direction) := alike.onLink inside _

theorem duplicate (inside : ground.connection s.connection) : (host.duplicate s).Alike ground (other.duplicate s) :=
  alike.onLink inside _

theorem setControl (c : ControlId) {control : Control}
    (leads : ground.control c → ∀ s, control.active = some s → ground.connection s.connection) :
    (host.setControl c control).Alike ground (other.setControl c control) := by
  refine ⟨alike.links, alike.listeners, fun c' inside => ?_, alike.files, fun c' s inside active => ?_, alike.backlog⟩
  · simp only [Host.setControl, List.getElem?_set', alike.controls c' inside]
  · by_cases own : c = c'
    · subst own
      rw [Host.control_setControl] at active
      split at active
      · exact leads inside s active
      · exact alike.active c s inside active
    · rw [Host.control_setControl_of_ne own] at active
      exact alike.active c' s inside active

theorem setListener (l : ListenerId) {listener : Listener}
    (leads : ground.listener l → ∀ s ∈ listener.backlog, ground.connection s.connection) :
    (host.setListener l listener).Alike ground (other.setListener l listener) := by
  refine ⟨alike.links, fun l' inside => ?_, alike.controls, alike.files, alike.active, fun l' inside s waits => ?_⟩
  · simp only [Host.setListener, List.getElem?_set', alike.listeners l' inside]
  · have found : (host.setListener l listener).listener l' = _ := host.listener_set l l' listener
    rw [found] at waits
    split at waits
    · rename_i own
      exact leads (own.1 ▸ inside) s waits
    · exact alike.backlog l' inside s waits

theorem withFiles (files : FileTree) : ({ host with files } : Host).Alike ground { other with files } :=
  ⟨alike.links, alike.listeners, alike.controls, rfl, alike.active, alike.backlog⟩

theorem unregister (inside : ground.control c) : (host.unregister c).Alike ground (other.unregister c) := by
  simp only [Host.unregister, alike.control inside]
  cases active : (host.control c).active with
  | none => exact alike
  | some s =>
    let silent : Control := { host.control c with active := none }
    have parted : (host.setControl c silent).Alike ground (other.setControl c silent) := alike.setControl c fun _ _ => nofun
    exact parted.release (alike.active c s inside active)

theorem register (known : ground.control c) (inside : ground.connection s.connection) :
    (host.register c s).Alike ground (other.register c s) := by
  have between := (alike.unregister known).duplicate inside
  simp only [Host.register, between.control known]
  refine between.setControl c fun _ t active => ?_
  cases active
  exact inside

theorem setTimeouts (inside : ground.connection s.connection) (reading writing : Option Nat) :
    ground.Same (host.setTimeouts s reading writing) (other.setTimeouts s reading writing) := by
  simp only [Host.setTimeouts, alike.endpoint inside]
  split
  · exact .intro alike
  · split
    · exact .intro (alike.setEndpoint inside _)
    · exact .intro (alike.setEndpoint inside _)

theorem accept (inside : ground.listener l) : ground.Same (host.accept l) (other.accept l) := by
  simp only [Host.accept, alike.listener inside]
  split
  · exact .intro alike
  · rename_i s rest waiting
    refine .intro (alike.setListener l fun _ t member => ?_)
    exact alike.backlog l inside t (waiting ▸ List.mem_cons_of_mem s member)

theorem closeListener (inside : ground.listener l) : (host.closeListener l).Alike ground (other.closeListener l) := by
  have reset (waiting : List SocketId) (keeps : ∀ s ∈ waiting, ground.connection s.connection) :
      (waiting.foldl (fun host s => host.onLink s (Link.close true)) host).Alike ground
        (waiting.foldl (fun host s => host.onLink s (Link.close true)) other) := by
    clear inside
    induction waiting generalizing host other with
    | nil => exact alike
    | cons s rest ih =>
      obtain ⟨first, others⟩ := List.forall_mem_cons.mp keeps
      exact ih (alike.onLink first _) others
  simp only [Host.closeListener, alike.listener inside]
  exact (reset _ (alike.backlog l inside)).setListener l fun _ _ => nofun

theorem dropListener (inside : ground.listener l) : (host.dropListener l).Alike ground (other.dropListener l) := by
  simp only [Host.dropListener, Host.inspectPath, alike.listener inside, alike.files]
  refine Alike.closeListener ?_ inside
  split
  · split
    · exact alike.withFiles _
    · exact alike
  · exact alike

end
end Alike
end Host

namespace Connection
variable {ground : Ground} {host other : Host} {c : Connection} (alike : host.Alike ground other)
include alike

theorem attach_alike {s : SocketId} {control : ControlId} (known : ground.control control)
    (inside : ground.connection s.connection) (config : FrameConfig) :
    ground.Same (attach host s config control) (attach other s config control) := by
  have timed := ((alike.duplicate inside).register known inside).setTimeouts inside config.readTimeout config.writeTimeout
  unfold attach
  dsimp only
  generalize ((host.duplicate s).register control s).setTimeouts s config.readTimeout config.writeTimeout = result at timed ⊢
  generalize ((other.duplicate s).register control s).setTimeouts s config.readTimeout config.writeTimeout = result' at timed ⊢
  cases timed with
  | @intro result after after' alike =>
    cases result with
    | error error => exact .intro ((alike.release inside).release inside)
    | ok => exact .intro alike

variable (inside : ground.connection c.socket.connection)
include inside

theorem reconfigure_alike (config : FrameConfig) : ground.Same (c.reconfigure config host) (c.reconfigure config other) := by
  have timed := alike.setTimeouts inside config.readTimeout config.writeTimeout
  unfold reconfigure
  generalize host.setTimeouts c.socket config.readTimeout config.writeTimeout = result at timed ⊢
  generalize other.setTimeouts c.socket config.readTimeout config.writeTimeout = result' at timed ⊢
  cases timed with
  | @intro result after after' alike =>
    cases result with
    | error error => exact .intro alike
    | ok => exact .intro alike

theorem readMessage_alike : ground.Agrees (c.readMessage host) (c.readMessage other) := by
  unfold readMessage
  rw [alike.endpoint inside]
  exact .intro (alike.setEndpoint inside _)

theorem send_alike (content : Bytes) : ground.Same (c.send content host) (c.send content other) := by
  unfold send
  rw [alike.link inside]
  exact .intro (alike.setLink _ _)

theorem hangUp_alike : (c.hangUp host).Alike ground (c.hangUp other) :=
  ((alike.shutdown inside .both).release inside).release inside

end Connection
end CallWire
