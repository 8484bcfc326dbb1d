import CallWire.Proofs.PathTenure
import CallWire.Proofs.RegisteredStream

/-! A path with a listener, and the same path when the listener is gone. Connecting to it and accepting from it move
the backlog along, and dropping the listener leaves room for the next one. -/

namespace CallWire
namespace Host
variable {host after : Host} {path : String} {l : ListenerId} {s : SocketId} {waiting rest : List SocketId}

/-- The path leads to the listener, and these connections wait there. -/
structure Listens (host : Host) (path : String) (l : ListenerId) (waiting : List SocketId) : Prop where
  tidy : host.Tidy
  leads : host.LeadsTo path l
  short : (Bytes.ofText path).length < maxSocketPath
  own : (host.listener l).path = path
  backlog : (host.listener l).backlog = waiting

/-- A socket file can be made at the path. -/
structure HasRoom (host : Host) (path : String) : Prop where
  tidy : host.Tidy
  clean : holdsNul path = false
  short : (Bytes.ofText path).length < maxSocketPath
  vacant : ∃ place, host.files.vacancy path = .ok place
  file : FileTree.namesDirectory path = false

theorem SamePaths.listener (same : host.SamePaths after) (l : ListenerId) : after.listener l = host.listener l := by
  rw [Host.listener, same.listeners]
  rfl

theorem SamePaths.tidy (same : host.SamePaths after) (tidy : host.Tidy) : after.Tidy := by
  refine tidy.narrow (same.files ▸ tidy.files) (Nat.le_of_eq same.lastInode.symm) fun l isOpen => ?_
  rw [same.listener] at isOpen ⊢
  exact ⟨isOpen, rfl⟩

theorem SamePaths.trans {last : Host} (left : host.SamePaths after) (right : after.SamePaths last) : host.SamePaths last :=
  ⟨right.files.trans left.files, right.listeners.trans left.listeners, right.lastInode.trans left.lastInode⟩

theorem Listens.of_same (listens : host.Listens path l waiting) (same : host.SamePaths after) :
    after.Listens path l waiting := by
  obtain ⟨tidy, leads, short, own, backlog⟩ := listens
  have swaps : host.files.Swaps [] [] after.files := by
    rw [same.files]
    exact tidy.files.swaps_nothing
  refine ⟨same.tidy tidy, ?_, short, (same.listener l).symm ▸ own, (same.listener l).symm ▸ backlog⟩
  exact leads.keeps tidy (same.tidy tidy) swaps (keepsListener_of_eq (same.listener l)) (List.forall_mem_nil _)

theorem HasRoom.of_same (room : host.HasRoom path) (same : host.SamePaths after) : after.HasRoom path := by
  obtain ⟨tidy, clean, short, vacant, file⟩ := room
  exact ⟨same.tidy tidy, clean, short, same.files ▸ vacant, file⟩

theorem Listens.inRange (listens : host.Listens path l waiting) : l < host.listeners.length := by
  obtain ⟨entry, -, -, holder⟩ := listens.leads
  exact inRange_of_open (open_of_listenerOf? holder).1

/-- Who waits at the listener is of no account to its path. -/
theorem Listens.setBacklog (listens : host.Listens path l waiting) (backlog : List SocketId) :
    (host.setListener l { host.listener l with backlog }).Listens path l backlog := by
  have moved (l' : ListenerId) : (host.setListener l { host.listener l with backlog }).listener l' = _ :=
    host.listener_set l l' _
  have keeps (l' : ListenerId) : host.KeepsListener l' (host.setListener l { host.listener l with backlog }) := by
    have found := moved l'
    split at found
    · rename_i here
      obtain ⟨rfl, -⟩ := here
      refine ⟨?_, ?_, ?_⟩
      all_goals rw [found]
    · exact keepsListener_of_eq found
  have tidy : (host.setListener l { host.listener l with backlog }).Tidy := by
    refine listens.tidy.narrow listens.tidy.files (Nat.le_refl _) fun l' isOpen => ?_
    exact ⟨(keeps l').isOpen ▸ isOpen, (keeps l').inode⟩
  refine ⟨tidy, ?_, listens.short, (keeps l).path.trans listens.own, ?_⟩
  · exact listens.leads.keeps listens.tidy tidy listens.tidy.files.swaps_nothing (keeps l) (List.forall_mem_nil _)
  · rw [moved, if_pos ⟨rfl, listens.inRange⟩]

/-- Whoever connects joins the backlog with a new connection. -/
theorem Listens.connect (listens : host.Listens path l waiting) :
    host.connect path = (.ok ⟨host.links.length, false⟩, (host.enqueue l).2) := by
  obtain ⟨entry, found, socket, holder⟩ := listens.leads
  have reached := connectTo_of_socket found listens.short socket
  rw [holder] at reached
  rw [Host.connect, reached]
  rfl

theorem Listens.enqueue (listens : host.Listens path l waiting) :
    (host.enqueue l).2.Listens path l (waiting ++ [⟨host.links.length, true⟩]) := by
  let joined : Host := { host with links := host.links ++ [({} : Link)] }
  have same : host.SamePaths joined := ⟨rfl, rfl, rfl⟩
  have moved := (listens.of_same same).setBacklog (waiting ++ [⟨host.links.length, true⟩])
  rw [← listens.backlog] at moved ⊢
  exact moved

/-- A path that can be bound is bound at once, and its channel has a control of its own. -/
theorem bind_listens {channel : Channel} (tidy : host.Tidy) (bound : Channel.bind path host = (.ok channel, after)) :
    ∃ l, channel = ⟨.listening l none, path, {}, host.controls.length⟩ ∧ after.Listens path l [] ∧
      after.links = host.links ∧ after.controls = host.controls ++ [{ listenPath := some path }] := by
  have found := bindWithMode_bound tidy.files path defaultSocketMode
  have short : ¬ maxSocketPath ≤ (Bytes.ofText path).length := by
    intro long
    unfold Channel.bind bind bindWithMode at bound
    rw [if_pos long] at bound
    cases bound
  unfold Channel.bind bind at bound
  generalize host.bindWithMode path defaultSocketMode = result at found bound
  obtain ⟨outcome, between⟩ := result
  cases found with
  | refused | occupied => cases bound
  | @opened gone room place clears vacant file =>
    obtain ⟨made, opens⟩ : ∃ made, host.Opens path host.listeners.length gone made
        (room.opened path place defaultSocketMode) := clears.opens tidy vacant file
    have links : room.links = host.links := by
      cases clears with
      | free | stale => rfl
    have controls : room.controls = host.controls := by
      cases clears with
      | free | stale => rfl
    obtain ⟨done, rfl⟩ := Prod.mk.inj bound
    obtain rfl := Except.ok.inj done
    have opens := opens.withControls (room.controls ++ [{ listenPath := some path }])
    refine ⟨host.listeners.length, ?_, ⟨opens.tidy, opens.leads, Nat.not_le.mp short, opens.listens.1, ?_⟩, links, ?_⟩
    · rw [← controls]
    · rw [← clears.room.1]
      show ((room.opened path place defaultSocketMode).listener room.listeners.length).backlog = []
      rw [opened_listener]
    · rw [← controls]

/-- Where nothing stands in the way, a channel is bound at once. -/
theorem bind_of_vacant {place : List String} (clean : holdsNul path = false)
    (short : (Bytes.ofText path).length < maxSocketPath) (vacant : host.files.vacancy path = .ok place)
    (file : FileTree.namesDirectory path = false) :
    Channel.bind path host = (.ok ⟨.listening host.listeners.length none, path, {}, host.controls.length⟩,
      { host.opened path place defaultSocketMode with controls := host.controls ++ [{ listenPath := some path }] }) := by
  obtain ⟨leads, nothing⟩ := FileTree.vacancy_eq_ok.mp vacant
  have missing : host.inspectPath path = .error .noSuchFile := by
    simp only [inspectPath, clean, Bool.false_eq_true, if_false, FileTree.lookup, leads, nothing]
  have cleared : host.clearPath path = (.ok (), host) := by
    unfold clearPath
    rw [missing]
    rfl
  have opened : host.openListener path defaultSocketMode =
      (.ok host.listeners.length, host.opened path place defaultSocketMode) := by
    simp only [openListener, vacant, file, Bool.false_eq_true, if_false]
    rfl
  have bound : host.bind path = (.ok host.listeners.length, host.opened path place defaultSocketMode) := by
    simp only [Host.bind, bindWithMode, if_neg (Nat.not_le.mpr short), cleared, opened]
    rfl
  unfold Channel.bind
  rw [bound]
  rfl

theorem HasRoom.bind (room : host.HasRoom path) : ∃ channel after, Channel.bind path host = (.ok channel, after) := by
  obtain ⟨tidy, clean, short, ⟨place, vacant⟩, file⟩ := room
  exact ⟨_, _, bind_of_vacant clean short vacant file⟩

/-- A listener takes its socket file away with it. -/
theorem Listens.drop (listens : host.Listens path l waiting) : (host.dropListener l).HasRoom path := by
  obtain ⟨gone, drops⟩ := host.dropListener_drops l
  obtain ⟨tidy, ⟨entry, found, socket, holder⟩, short, own, -⟩ := listens
  obtain ⟨clean, present⟩ := lookup_of_inspectPath found
  obtain ⟨leads, member, file⟩ := (tidy.files.lookup_eq_socket socket).mp present
  have kind : entry.kind ≠ .directory := by
    rw [socket]
    exact nofun
  have files : (host.dropListener l).files = host.files.remove entry.place := by
    obtain ⟨links, closed⟩ := closeListener_eq { host with files := host.files.remove entry.place } l
    have inode := (open_of_listenerOf? holder).2
    simp only [dropListener, own, found, socket, inode, and_self, if_true, closed]
  refine ⟨drops.tidy tidy, clean, short, ⟨entry.place, ?_⟩, file⟩
  rw [files, FileTree.vacancy_eq_ok]
  exact ⟨FileTree.locate_keeps (tidy.files.remove_keepsDirectories member kind) leads,
    tidy.files.remove_vacant member kind⟩

end Host

namespace Channel
variable {channel : Channel} {host : Host} {path : String} {l : ListenerId} {waiting : List SocketId}

/-- A channel that closes gives its path up. -/
theorem close_hasRoom {peer : Option Connection} (state : channel.state = .listening l peer)
    (listens : host.Listens path l waiting) : (channel.close host).2.HasRoom path := by
  have dropped := (listens.of_same (host.unregister_samePaths channel.control)).drop
  cases peer with
  | none =>
    simp only [close, state]
    exact dropped
  | some c =>
    simp only [close, state]
    exact dropped.of_same (Host.hangUp_samePaths _ c)

/-- A channel that parts from its peer goes on listening. -/
theorem detachPeer_listens {peer : Option Connection} (state : channel.state = .listening l peer)
    (listens : host.Listens path l waiting) : (channel.detachPeer host).2.Listens path l waiting := by
  have parted := listens.of_same (host.unregister_samePaths channel.control)
  cases peer with
  | none =>
    simp only [detachPeer, state]
    exact parted
  | some c =>
    simp only [detachPeer, state]
    exact parted.of_same (Host.hangUp_samePaths _ c)

end Channel
end CallWire
