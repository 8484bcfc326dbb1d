import CallWire.Proofs.ListenerPaths

/-! Who owns the file at a path. Listeners come and go, and others change files as they like; but no one who binds or
stops listening takes away a socket file to which somebody else listens. -/

namespace CallWire
namespace Host
variable {host after : Host} {path : String} {l : ListenerId} {gone : List FileEntry}

/-- Only connections and controls are different. -/
structure SamePaths (before after : Host) : Prop where
  files : after.files = before.files
  listeners : after.listeners = before.listeners
  lastInode : after.lastInode = before.lastInode

theorem unregister_samePaths (host : Host) (c : ControlId) : host.SamePaths (host.unregister c) := by
  unfold unregister
  split
  · exact ⟨rfl, rfl, rfl⟩
  · exact ⟨rfl, rfl, rfl⟩

theorem hangUp_samePaths (host : Host) (c : Connection) : host.SamePaths (c.hangUp host) := ⟨rfl, rfl, rfl⟩

/-- The listener listens no more, and these files are gone with it. -/
structure Drops (host : Host) (l : ListenerId) (gone : List FileEntry) (after : Host) : Prop where
  own : ∀ file ∈ gone, host.inspectPath (host.listener l).path = .ok file ∧ file.kind = .socket ∧
    file.inode = (host.listener l).inode
  swaps : host.files.IsSound → host.files.Swaps gone [] after.files
  listeners : after.listeners = host.listeners.set l { host.listener l with isOpen := false, backlog := [] }
  lastInode : after.lastInode = host.lastInode

theorem Drops.of_same {before later : Host} (drops : before.Drops l gone later) (same : host.SamePaths before)
    (same' : later.SamePaths after) : host.Drops l gone after := by
  have listener : before.listener l = host.listener l := by
    rw [Host.listener, same.listeners]
    rfl
  have inspect : before.inspectPath = host.inspectPath := by
    funext path
    rw [inspectPath, inspectPath, same.files]
  obtain ⟨own, swaps, listeners, lastInode⟩ := drops
  rw [same.files] at swaps
  rw [listener, inspect] at own
  rw [same.listeners, listener] at listeners
  refine ⟨own, same'.files ▸ swaps, same'.listeners.trans listeners, ?_⟩
  exact same'.lastInode.trans (lastInode.trans same.lastInode)

theorem closeListener_eq (host : Host) (l : ListenerId) : ∃ links, host.closeListener l =
    { host with links, listeners := host.listeners.set l { host.listener l with isOpen := false, backlog := [] } } := by
  have reset (waiting : List SocketId) (host : Host) : ∃ links,
      waiting.foldl (fun host s => host.onLink s (Link.close true)) host = { host with links } := by
    induction waiting generalizing host with
    | nil => exact ⟨host.links, rfl⟩
    | cons s rest ih => exact ih _
  obtain ⟨links, left⟩ := reset (host.listener l).backlog host
  refine ⟨links, ?_⟩
  rw [closeListener]
  simp only [left]
  rfl

theorem closeListener_drops (host : Host) (l : ListenerId) : host.Drops l [] (host.closeListener l) := by
  obtain ⟨links, closed⟩ := host.closeListener_eq l
  rw [closed]
  exact ⟨List.forall_mem_nil _, fun sound => sound.swaps_nothing, rfl, rfl⟩

theorem dropListener_drops (host : Host) (l : ListenerId) : ∃ gone, host.Drops l gone (host.dropListener l) := by
  unfold dropListener
  dsimp only
  split
  · rename_i file found
    split
    · rename_i own
      obtain ⟨links, closed⟩ := closeListener_eq { host with files := host.files.remove file.place } l
      refine ⟨[file], ?_, fun sound => ?_, by rw [closed]; rfl, by rw [closed]⟩
      · intro other member
        cases List.mem_singleton.mp member
        exact ⟨found, own⟩
      · rw [closed]
        exact sound.swaps_socket own.1 (lookup_of_inspectPath found).2
    · exact ⟨[], host.closeListener_drops l⟩
  · exact ⟨[], host.closeListener_drops l⟩

theorem Drops.listener {l' : ListenerId} (drops : host.Drops l gone after) :
    after.listener l' =
      if l = l' ∧ l < host.listeners.length then { host.listener l with isOpen := false, backlog := [] }
      else host.listener l' := by
  rw [Host.listener, drops.listeners]
  exact host.listener_set l l' _

theorem Drops.keeps {l' : ListenerId} (drops : host.Drops l gone after) (other : l' ≠ l) :
    host.KeepsListener l' after := by
  apply keepsListener_of_eq
  rw [drops.listener, if_neg (fun both => other both.1.symm)]

theorem Drops.tidy (drops : host.Drops l gone after) (tidy : host.Tidy) : after.Tidy := by
  refine tidy.narrow (drops.swaps tidy.files).sound (Nat.le_of_eq drops.lastInode.symm) fun l' isOpen => ?_
  rw [drops.listener] at isOpen ⊢
  split at isOpen
  · cases isOpen
  · rename_i other
    rw [if_neg other]
    exact ⟨isOpen, rfl⟩

/-- A listener that closes leaves its file behind. -/
theorem Tidy.deserted {place : List String} (tidy : host.Tidy) (vacant : host.files.vacancy path = .ok place)
    (mode : Nat) : ((host.opened path place mode).closeListener host.listeners.length).Tidy :=
  (closeListener_drops _ _).tidy (tidy.opened (tidy.files.swaps_nothing.append vacant rfl).sound)

theorem deserted_keeps (host : Host) (path : String) (place : List String) (mode : Nat)
    (isOpen : (host.listener l).isOpen = true) :
    host.KeepsListener l ((host.opened path place mode).closeListener host.listeners.length) := by
  have earlier := inRange_of_open isOpen
  have kept := (closeListener_drops (host.opened path place mode) host.listeners.length).keeps (Nat.ne_of_lt earlier)
  obtain ⟨path', inode, isOpen'⟩ := kept
  rw [host.opened_listener_of_lt path place mode earlier] at path' inode isOpen'
  exact ⟨path', inode, isOpen'⟩

/-- A socket file that goes with a listener is that of no other. -/
theorem Drops.spares {l' : ListenerId} (drops : host.Drops l gone after) (tidy : host.Tidy)
    (isOpen : (host.listener l).isOpen = true) (other : l' ≠ l) :
    ∀ file ∈ gone, host.listenerOf? file.inode ≠ some l' := by
  intro file lost holder
  obtain ⟨isOpen', own'⟩ := open_of_listenerOf? holder
  exact other (tidy.distinct l' l isOpen' isOpen (own'.trans (drops.own file lost).2.2))

theorem Clears.swaps {room : Host} {result : Except IoError Unit} (clears : host.Clears path gone result room)
    (sound : host.files.IsSound) : host.files.Swaps gone [] room.files := by
  cases clears with
  | refused | occupied | free => exact sound.swaps_nothing
  | stale stale => exact sound.swaps_socket stale.socket (lookup_of_inspectPath stale.found).2

/-- What binding does if it succeeds. -/
structure Opens (host : Host) (path : String) (l : ListenerId) (gone : List FileEntry) (made : FileEntry)
    (after : Host) : Prop where
  room : gone = [] ∧ host.IsFree path ∨ ∃ stale, gone = [stale] ∧ host.IsStale path stale
  swaps : host.files.Swaps gone [made] after.files
  socket : made.kind = .socket
  tidy : after.Tidy
  keeps : ∀ l, (host.listener l).isOpen = true → host.KeepsListener l after
  listens : (after.listener l).path = path ∧ (after.listener l).isOpen = true
  leads : after.LeadsTo path l

theorem Clears.room {room : Host} (clears : host.Clears path gone (.ok ()) room) :
    room.listeners = host.listeners ∧ room.lastInode = host.lastInode ∧ holdsNul path = false ∧
      (gone = [] ∧ host.IsFree path ∨ ∃ stale, gone = [stale] ∧ host.IsStale path stale) := by
  cases clears with
  | free free =>
    refine ⟨rfl, rfl, ?_, .inl ⟨rfl, free⟩⟩
    obtain ⟨error, failed, missing⟩ := free
    unfold inspectPath at failed
    split at failed
    · cases failed
      cases missing
    · rename_i clean
      simpa using clean
  | stale stale => exact ⟨rfl, rfl, (lookup_of_inspectPath stale.found).1, .inr ⟨_, rfl, stale⟩⟩

theorem Clears.opens {room : Host} {place : List String} {mode : Nat} (clears : host.Clears path gone (.ok ()) room)
    (tidy : host.Tidy) (vacant : room.files.vacancy path = .ok place) (file : FileTree.namesDirectory path = false) :
    ∃ made, host.Opens path host.listeners.length gone made (room.opened path place mode) := by
  obtain ⟨listeners, lastInode, clean, cause⟩ := clears.room
  have listener l : room.listener l = host.listener l := by
    rw [Host.listener, listeners]
    rfl
  let made : FileEntry := ⟨place, room.lastInode + 1, .socket, mode % 0o10000⟩
  have swaps : host.files.Swaps gone [made] (room.opened path place mode).files := (clears.swaps tidy.files).append vacant rfl
  have tidied : room.Tidy := by
    refine tidy.narrow (clears.swaps tidy.files).sound (Nat.le_of_eq lastInode.symm) fun l isOpen => ?_
    rw [listener] at isOpen ⊢
    exact ⟨isOpen, rfl⟩
  have own : (room.opened path place mode).listener host.listeners.length = { path, inode := room.lastInode + 1 } := by
    rw [← listeners, opened_listener]
  have after := tidied.opened swaps.sound
  refine ⟨made, cause, swaps, rfl, after, fun l isOpen => ?_, ?_, made, ?_, rfl, ?_⟩
  · apply keepsListener_of_eq
    rw [room.opened_listener_of_lt path place mode (listeners ▸ inRange_of_open isOpen), listener]
  · rw [own]
    exact ⟨rfl, rfl⟩
  · have leads : (room.opened path place mode).files.locate path = .ok place :=
      FileTree.locate_keeps (FileTree.keepsDirectories_append room.files made) (FileTree.vacancy_eq_ok.mp vacant).1
    have member : made ∈ (room.opened path place mode).files := List.mem_append_right _ List.mem_cons_self
    rw [inspectPath, clean]
    exact (swaps.sound.lookup_eq_socket rfl).mpr ⟨leads, member, file⟩
  · rw [after.listenerOf?_eq_some, own]
    exact ⟨rfl, rfl⟩

/-- What one attempt to bind amounts to: a listener, or else nothing but a connection that somebody else may accept. -/
theorem bindWithMode_cases (tidy : host.Tidy) (path : String) (mode : Nat) :
    (∃ error, (host.bindWithMode path mode).1 = .error error ∧
        ((host.bindWithMode path mode).2 = host ∨
          ∃ holder, host.LeadsTo path holder ∧ (host.bindWithMode path mode).2 = host.knocked holder)) ∨
      ∃ l gone made, (host.bindWithMode path mode).1 = .ok l ∧
        host.Opens path l gone made (host.bindWithMode path mode).2 := by
  have bound := bindWithMode_bound tidy.files path mode
  generalize host.bindWithMode path mode = result at bound
  obtain ⟨result, after⟩ := result
  cases bound with
  | refused => exact .inl ⟨_, rfl, .inl rfl⟩
  | occupied leads => exact .inl ⟨_, rfl, .inr ⟨_, leads, rfl⟩⟩
  | opened clears vacant file =>
    obtain ⟨made, opens⟩ := clears.opens tidy vacant file
    exact .inr ⟨_, _, made, rfl, opens⟩

end Host
end CallWire
