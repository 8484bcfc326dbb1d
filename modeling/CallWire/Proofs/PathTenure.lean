import CallWire.Proofs.PathOwnership
import CallWire.Scenario.Step
import Mathlib

/-! Listeners at their paths, over any run of binding and dropping, while others do to the files what they like. A path
goes on leading to its listener until the listener is dropped, or somebody else removes or replaces the file. -/

namespace CallWire

namespace Channel

def listener? (channel : Channel) : Option ListenerId :=
  match channel.state with
  | .listening l _ => some l
  | _ => none

/-- A channel that is closed drops its listener. -/
theorem close_drops {channel : Channel} {l : ListenerId} (listens : channel.listener? = some l) (host : Host) :
    ∃ gone, host.Drops l gone (channel.close host).2 := by
  obtain ⟨gone, drops⟩ := (host.unregister channel.control).dropListener_drops l
  have parted := host.unregister_samePaths channel.control
  unfold listener? at listens
  split at listens
  · rename_i own peer state
    cases listens
    refine ⟨gone, drops.of_same parted ?_⟩
    cases peer with
    | none =>
      simp only [close, state]
      exact ⟨rfl, rfl, rfl⟩
    | some c =>
      simp only [close, state]
      exact Host.hangUp_samePaths _ c
  · cases listens

end Channel

/-- Controls are of no account to paths. -/
theorem Host.Opens.withControls {host after : Host} {path : String} {l : ListenerId} {gone : List FileEntry}
    {made : FileEntry} (opens : host.Opens path l gone made after) (controls : List Control) :
    host.Opens path l gone made { after with controls } := by
  obtain ⟨room, swaps, socket, ⟨files, distinct, numbered⟩, keeps, listens, leads⟩ := opens
  refine ⟨room, swaps, socket, ⟨files, distinct, numbered⟩, fun l isOpen => ?_, listens, leads⟩
  obtain ⟨path, inode, stays⟩ := keeps l isOpen
  exact ⟨path, inode, stays⟩

/-- Something that happens to paths, with the listener that came of it. -/
inductive PathDeed
  | bound (path : String) (opened : Option ListenerId)
  | dropped (l : ListenerId)
  | elsewhere

/-- A host, and the listeners that are held and not yet dropped. -/
structure Tenure where
  host : Host
  held : List ListenerId

namespace Tenure

/-- What can happen next, to listeners as such or in channels. Others do with the files what a file system allows, and do
not touch the listeners that are held. -/
inductive Moves : PathDeed → Tenure → Tenure → Prop
  | bind {host held result after} (path : String) (mode : Nat) (done : host.bindWithMode path mode = (result, after)) :
      Moves (.bound path result.toOption) ⟨host, held⟩ ⟨after, held ++ result.toOption.toList⟩
  | bindChannel {host held result after} (path : String) (done : Channel.bind path host = (result, after)) :
      Moves (.bound path (result.toOption.bind Channel.listener?)) ⟨host, held⟩
        ⟨after, held ++ (result.toOption.bind Channel.listener?).toList⟩
  | drop {host held l} (own : l ∈ held) : Moves (.dropped l) ⟨host, held⟩ ⟨host.dropListener l, held.filter (· ≠ l)⟩
  | close {host held l next after} {channel : Channel} (listens : channel.listener? = some l) (own : l ∈ held)
      (done : channel.close host = (next, after)) : Moves (.dropped l) ⟨host, held⟩ ⟨after, held.filter (· ≠ l)⟩
  | elsewhere {host held after} (tidy : after.Tidy) (keeps : ∀ l ∈ held, host.KeepsListener l after) :
      Moves .elsewhere ⟨host, held⟩ ⟨after, held⟩

/-- Any number of moves. -/
def Run : Tenure → Tenure → Prop := Relation.ReflTransGen fun before after => ∃ deed, Moves deed before after

structure IsValid (t : Tenure) : Prop where
  tidy : t.host.Tidy
  held : ∀ l ∈ t.held, (t.host.listener l).isOpen = true

/-- What others do to files in a scenario is such a move. -/
theorem moves_useFile {held : List ListenerId} (scenario : Scenario) (valid : IsValid ⟨scenario.host, held⟩)
    (path : String) (operation : FileOperation) :
    Moves .elsewhere ⟨scenario.host, held⟩ ⟨(scenario.useFile path operation).2.host, held⟩ := by
  obtain ⟨tidy, opens⟩ := valid
  have still : Moves .elsewhere ⟨scenario.host, held⟩ ⟨scenario.host, held⟩ := .elsewhere tidy fun _ _ => ⟨rfl, rfl, rfl⟩
  unfold Scenario.useFile
  dsimp only
  split
  · exact still
  · exact still
  · split
    · exact still
    · exact still
    · exact still
  · split
    · rename_i place vacant
      exact .elsewhere (tidy.addFile vacant .regular newFileMode) fun _ _ => ⟨rfl, rfl, rfl⟩
    · exact still
  · split
    · rename_i place vacant
      exact .elsewhere (tidy.addFile vacant .directory newSocketMode) fun _ _ => ⟨rfl, rfl, rfl⟩
    · exact still
  · rename_i entry _
    split
    · exact still
    all_goals exact .elsewhere (tidy.remove entry.place) fun _ _ => ⟨rfl, rfl, rfl⟩
  · rcases scenario.host.openListener_cases path newSocketMode with ⟨error, failed⟩ | ⟨place, vacant, -, made⟩
    · rw [failed]
      exact still
    · rw [made]
      -- A listener that comes and goes leaves its file behind.
      exact .elsewhere (tidy.deserted vacant newSocketMode) fun l member =>
        scenario.host.deserted_keeps path place newSocketMode (opens l member)
  · exact still

/-- What became of the host. -/
inductive Effect : PathDeed → Tenure → Tenure → Prop
  | refused {path host held} : Effect (.bound path none) ⟨host, held⟩ ⟨host, held⟩
  | occupied {path host held holder} (leads : host.LeadsTo path holder) :
      Effect (.bound path none) ⟨host, held⟩ ⟨host.knocked holder, held⟩
  | opened {path host held l gone made after} (opens : host.Opens path l gone made after) :
      Effect (.bound path (some l)) ⟨host, held⟩ ⟨after, held ++ [l]⟩
  | dropped {host held l gone after} (own : l ∈ held) (drops : host.Drops l gone after) :
      Effect (.dropped l) ⟨host, held⟩ ⟨after, held.filter (· ≠ l)⟩
  | elsewhere {host held after} (tidy : after.Tidy) (keeps : ∀ l ∈ held, host.KeepsListener l after) :
      Effect .elsewhere ⟨host, held⟩ ⟨after, held⟩

variable {deed : PathDeed} {t next : Tenure}

theorem Moves.effect (move : Moves deed t next) (tidy : t.host.Tidy) : Effect deed t next := by
  have nothing {path : String} {host after : Host} {held : List ListenerId}
      (effect : Effect (.bound path none) ⟨host, held⟩ ⟨after, held⟩) :
      Effect (.bound path none) ⟨host, held⟩ ⟨after, held ++ []⟩ := by
    rwa [List.append_nil]
  cases move with
  | @bind host held result after path mode done =>
    have found := Host.bindWithMode_cases tidy path mode
    rw [done] at found
    obtain ⟨error, rfl, rfl | ⟨holder, leads, rfl⟩⟩ | ⟨l, gone, made, rfl, opens⟩ := found
    · exact nothing .refused
    · exact nothing (.occupied leads)
    · exact .opened opens
  | @bindChannel host held result after path done =>
    have found := Host.bindWithMode_cases tidy path defaultSocketMode
    unfold Channel.bind Host.bind at done
    rcases bound : host.bindWithMode path defaultSocketMode with ⟨outcome, between⟩
    rw [bound] at found done
    obtain ⟨error, rfl, rfl | ⟨holder, leads, rfl⟩⟩ | ⟨l, gone, made, rfl, opens⟩ := found
    · cases done
      exact nothing .refused
    · cases done
      exact nothing (.occupied leads)
    · cases done
      exact .opened (opens.withControls _)
  | @drop host held l own =>
    obtain ⟨gone, drops⟩ := host.dropListener_drops l
    exact .dropped own drops
  | @close host held l next after channel listens own done =>
    obtain ⟨gone, drops⟩ := Channel.close_drops listens host
    rw [done] at drops
    exact .dropped own drops
  | elsewhere tidy' keeps => exact .elsewhere tidy' keeps

theorem Effect.valid (effect : Effect deed t next) (valid : t.IsValid) : next.IsValid := by
  obtain ⟨tidy, opens⟩ := valid
  cases effect with
  | refused => exact ⟨tidy, opens⟩
  | occupied leads =>
    refine ⟨tidy.knocked _, fun l member => ?_⟩
    rw [(Host.knocked_keeps _ l _).isOpen]
    exact opens l member
  | opened opened =>
    refine ⟨opened.tidy, fun l member => ?_⟩
    rcases List.mem_append.mp member with before | new
    · rw [(opened.keeps l (opens l before)).isOpen]
      exact opens l before
    · cases List.mem_singleton.mp new
      exact opened.listens.2
  | dropped own drops =>
    refine ⟨drops.tidy tidy, fun l member => ?_⟩
    obtain ⟨member, other⟩ := List.mem_filter.mp member
    rw [(drops.keeps (by simpa using other)).isOpen]
    exact opens l member
  | elsewhere tidy' keeps =>
    refine ⟨tidy', fun l member => ?_⟩
    rw [(keeps l member).isOpen]
    exact opens l member

theorem Run.valid (run : Run t next) (valid : t.IsValid) : next.IsValid := by
  induction run with
  | refl => exact valid
  | tail _ moved ih =>
    obtain ⟨deed, move⟩ := moved
    exact (move.effect ih.tidy).valid ih

/-- The listener is not dropped by this, and others leave a socket with the same number at the path. -/
def Spares (path : String) (l : ListenerId) (before after : Host) : PathDeed → Prop
  | .bound _ _ => True
  | .dropped other => other ≠ l
  | .elsewhere => ∀ file, before.inspectPath path = .ok file →
      ∃ file', after.inspectPath path = .ok file' ∧ file'.kind = file.kind ∧ file'.inode = file.inode

/-- The listener is held, and the path leads to it. -/
structure Keeps (path : String) (l : ListenerId) (t : Tenure) : Prop where
  held : l ∈ t.held
  leads : t.host.LeadsTo path l

variable {path : String} {l : ListenerId}

theorem Effect.keeps (effect : Effect deed t next) (valid : t.IsValid) (spares : Spares path l t.host next.host deed)
    (keeps : Keeps path l t) : Keeps path l next := by
  obtain ⟨tidy, opens⟩ := valid
  obtain ⟨held, leads⟩ := keeps
  have isOpen := opens l held
  cases effect with
  | refused => exact ⟨held, leads⟩
  | occupied =>
    refine ⟨held, leads.keeps tidy (tidy.knocked _) tidy.files.swaps_nothing ?_ (List.forall_mem_nil _)⟩
    exact Host.knocked_keeps _ l _
  | opened opened =>
    refine ⟨List.mem_append_left _ held, leads.keeps tidy opened.tidy opened.swaps (opened.keeps l isOpen) ?_⟩
    intro file lost holder
    obtain ⟨rfl, -⟩ | ⟨stale, rfl, deserted⟩ := opened.room
    · cases lost
    · cases List.mem_singleton.mp lost
      cases deserted.deserted.symm.trans holder
  | dropped own drops =>
    have other : l ≠ _ := Ne.symm spares
    exact ⟨List.mem_filter.mpr ⟨held, by simpa using other⟩, leads.keeps tidy (drops.tidy tidy) (drops.swaps tidy.files)
      (drops.keeps other) (drops.spares tidy (opens _ own) other)⟩
  | elsewhere tidy' keeps =>
    obtain ⟨entry, found, socket, holder⟩ := leads
    obtain ⟨entry', found', kind, inode⟩ := spares entry found
    obtain ⟨-, number⟩ := Host.open_of_listenerOf? holder
    refine ⟨held, entry', found', kind.trans socket, tidy'.listenerOf?_eq_some.mpr ⟨?_, ?_⟩⟩
    · exact (keeps l held).isOpen.trans isOpen
    · exact ((keeps l held).inode.trans number).trans inode.symm

/-- Any number of moves that spare the listener. -/
def SparingRun (path : String) (l : ListenerId) : Tenure → Tenure → Prop :=
  Relation.ReflTransGen fun before after => ∃ deed, Moves deed before after ∧ Spares path l before.host after.host deed

theorem SparingRun.keeps (run : SparingRun path l t next) (valid : t.IsValid) (keeps : Keeps path l t) :
    next.IsValid ∧ Keeps path l next := by
  induction run with
  | refl => exact ⟨valid, keeps⟩
  | tail _ moved ih =>
    obtain ⟨deed, move, spares⟩ := moved
    obtain ⟨valid, keeps⟩ := ih
    have effect := move.effect valid.tidy
    exact ⟨effect.valid valid, effect.keeps valid spares keeps⟩

/-- Nothing has happened yet. -/
theorem isValid_start : IsValid ⟨{}, []⟩ := by
  have silent l : (({} : Host).listener l).isOpen = false := rfl
  refine ⟨⟨⟨nofun, nofun, nofun⟩, fun l l' isOpen => ?_, fun l isOpen => ?_⟩, nofun⟩
  · cases (silent l).symm.trans isOpen
  · cases (silent l).symm.trans isOpen

end Tenure

/-- What binding and dropping may do. Binding that fails leaves at most a closed connection with the listener that was
found; binding that succeeds makes a socket file where there was none, or one that refuses connections; dropping takes
away the listener's own file. No other file is touched. -/
def PathDeed.IsPermitted (before after : Host) : PathDeed → Prop
  | bound path none => after = before ∨ ∃ holder, before.LeadsTo path holder ∧ after = before.knocked holder
  | bound path (some l) => after.LeadsTo path l ∧ (after.listener l).path = path ∧
      ∃ gone made, before.files.Swaps gone [made] after.files ∧ made.kind = .socket ∧
        (gone = [] ∧ before.IsFree path ∨ ∃ stale, gone = [stale] ∧ before.IsStale path stale)
  | dropped l => ∃ gone, before.files.Swaps gone [] after.files ∧
      ∀ file ∈ gone, before.inspectPath (before.listener l).path = .ok file ∧ file.kind = .socket ∧
        file.inode = (before.listener l).inode
  | elsewhere => True

theorem Tenure.Effect.isPermitted {deed : PathDeed} {t next : Tenure} (effect : Effect deed t next)
    (tidy : t.host.Tidy) : deed.IsPermitted t.host next.host := by
  cases effect with
  | refused => exact .inl rfl
  | occupied leads => exact .inr ⟨_, leads, rfl⟩
  | opened opens => exact ⟨opens.leads, opens.listens.1, _, _, opens.swaps, opens.socket, opens.room⟩
  | dropped own drops => exact ⟨_, drops.swaps tidy.files, drops.own⟩
  | elsewhere => trivial

/-- Whatever went before, binding and dropping do to the files no more than they may. So a path that leads to a listener
leads to it until the listener is dropped or somebody else removes or replaces the file. -/
theorem Tenure.binding_takes_nothing {start t : Tenure} (valid : start.IsValid) (run : Run start t) :
    (∀ deed next, Moves deed t next → deed.IsPermitted t.host next.host) ∧
      ∀ path l, l ∈ t.held → t.host.LeadsTo path l →
        ∀ later, SparingRun path l t later → l ∈ later.held ∧ later.host.LeadsTo path l := by
  have valid := run.valid valid
  refine ⟨fun deed next move => (move.effect valid.tidy).isPermitted valid.tidy, fun path l held leads later sparing => ?_⟩
  obtain ⟨-, kept⟩ := sparing.keeps valid ⟨held, leads⟩
  exact ⟨kept.held, kept.leads⟩

/-- Somebody tries to bind to the path of a listener, and another listener comes and goes beside it. -/
theorem Tenure.binding_takes_nothing_beside_another :
    let host : Host := { listeners := [{ path := "s", inode := 1 }], files := [⟨["s"], 1, .socket, 0o600⟩], lastInode := 1 }
    ∃ later, Moves (.bound "s" (some 0)) ⟨{}, []⟩ ⟨host, [0]⟩ ∧ SparingRun "s" 0 ⟨host, [0]⟩ later ∧
      later.host.listeners.length = 2 ∧ 0 ∈ later.held ∧ later.host.LeadsTo "s" 0 := by
  intro host
  have bound : ({} : Host).bindWithMode "s" 0o600 = (.ok 0, host) := by cbv
  have made : Moves (.bound "s" (some 0)) ⟨{}, []⟩ ⟨host, [0]⟩ := .bind "s" 0o600 bound
  have run : Run ⟨{}, []⟩ ⟨host, [0]⟩ := .single ⟨_, made⟩
  have refused : host.bindWithMode "s" 0o600 =
      (.error (.bind "s" ⟨.addrInUse, "socket path is already bound by a live listener"⟩), host.knocked 0) := by cbv
  have beside : (host.knocked 0).bindWithMode "t" 0o600 = (.ok 1, (host.knocked 0).opened "t" ["t"] 0o600) := by cbv
  have tries : Moves (.bound "s" none) ⟨host, [0]⟩ ⟨host.knocked 0, [0]⟩ := .bind "s" 0o600 refused
  have comes : Moves (.bound "t" (some 1)) ⟨host.knocked 0, [0]⟩ ⟨(host.knocked 0).opened "t" ["t"] 0o600, [0, 1]⟩ :=
    .bind "t" 0o600 beside
  have goes : Moves (.dropped 1) ⟨(host.knocked 0).opened "t" ["t"] 0o600, [0, 1]⟩ ⟨_, [0]⟩ := .drop (by decide)
  have sparing : SparingRun "s" 0 ⟨host, [0]⟩ _ :=
    .tail (.tail (.single ⟨_, tries, trivial⟩) ⟨_, comes, trivial⟩) ⟨_, goes, Nat.one_ne_zero⟩
  obtain ⟨leads, -⟩ := (binding_takes_nothing isValid_start .refl).1 _ _ made
  exact ⟨_, made, sparing, by cbv, (binding_takes_nothing isValid_start run).2 "s" 0 (by decide) leads _ sparing⟩

end CallWire
