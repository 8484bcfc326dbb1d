import CallWire.Proofs.FilePlaces
import CallWire.Proofs.LinkTraffic
import CallWire.Socket.Listener

/-! Paths at which listeners are. Binding to a path takes it only if nobody listens there, and tries that by
connecting. -/

namespace CallWire
namespace Host
variable {host after : Host} {path : String} {l : ListenerId} {entry : FileEntry} {inode mode : Nat}

/-- The files are sound, and no two open listeners have the same. -/
structure Tidy (host : Host) : Prop where
  files : host.files.IsSound
  distinct : ∀ l l', (host.listener l).isOpen = true → (host.listener l').isOpen = true →
    (host.listener l).inode = (host.listener l').inode → l = l'
  numbered : ∀ l, (host.listener l).isOpen = true → (host.listener l).inode ≤ host.lastInode

/-- Whoever connects to the path gets to the listener. -/
def LeadsTo (host : Host) (path : String) (l : ListenerId) : Prop :=
  ∃ entry, host.inspectPath path = .ok entry ∧ entry.kind = .socket ∧ host.listenerOf? entry.inode = some l

/-- Nothing is at the path. -/
def IsFree (host : Host) (path : String) : Prop := ∃ error, host.inspectPath path = .error error ∧ error.kind = .notFound

/-- A socket is at the path, and refuses connections. -/
structure IsStale (host : Host) (path : String) (entry : FileEntry) : Prop where
  found : host.inspectPath path = .ok entry
  socket : entry.kind = .socket
  refuses : host.connectTo path = (.error .connectionRefused, host)

theorem lookup_of_inspectPath (found : host.inspectPath path = .ok entry) :
    holdsNul path = false ∧ host.files.lookup path = .ok entry := by
  unfold inspectPath at found
  split at found
  · cases found
  · rename_i clean
    exact ⟨by simpa using clean, found⟩

theorem inRange_of_open (isOpen : (host.listener l).isOpen = true) : l < host.listeners.length := by
  by_contra outside
  rw [listener, List.getD_eq_getElem?_getD, List.getElem?_eq_none (Nat.not_lt.mp outside)] at isOpen
  cases isOpen

theorem listener_eq_getElem (inRange : l < host.listeners.length) : host.listener l = host.listeners[l] := by
  rw [listener, List.getD_eq_getElem?_getD, List.getElem?_eq_getElem inRange]
  rfl

theorem open_of_listenerOf? (found : host.listenerOf? inode = some l) :
    (host.listener l).isOpen = true ∧ (host.listener l).inode = inode := by
  obtain ⟨inRange, fits, -⟩ := List.findIdx?_eq_some_iff_getElem.mp found
  rw [listener_eq_getElem inRange]
  simpa using fits

theorem Tidy.listenerOf?_eq_some (tidy : host.Tidy) :
    host.listenerOf? inode = some l ↔ (host.listener l).isOpen = true ∧ (host.listener l).inode = inode := by
  refine ⟨open_of_listenerOf?, ?_⟩
  rintro ⟨isOpen, own⟩
  have inRange := inRange_of_open isOpen
  cases found : host.listenerOf? inode with
  | none =>
    have none := List.findIdx?_eq_none_iff.mp found host.listeners[l] (List.getElem_mem inRange)
    rw [← listener_eq_getElem inRange, isOpen, own] at none
    simp at none
  | some first =>
    obtain ⟨isOpen', own'⟩ := open_of_listenerOf? found
    rw [tidy.distinct first l isOpen' isOpen (own'.trans own.symm)]

/-- Connecting to a socket succeeds just if it has a listener. -/
theorem connectTo_of_socket (found : host.inspectPath path = .ok entry)
    (short : (Bytes.ofText path).length < maxSocketPath) (socket : entry.kind = .socket) :
    host.connectTo path =
      match host.listenerOf? entry.inode with
      | some l => (.ok (host.enqueue l).1, (host.enqueue l).2)
      | none => (.error .connectionRefused, host) := by
  obtain ⟨clean, present⟩ := lookup_of_inspectPath found
  have nonempty : path ≠ "" := by
    rintro rfl
    cases present
  simp only [connectTo, clean, Bool.false_eq_true, if_false, if_neg (Nat.not_le.mpr short), nonempty, present, socket]
  cases host.listenerOf? entry.inode with
  | none => rfl
  | some l => rfl

theorem IsStale.deserted (stale : host.IsStale path entry) : host.listenerOf? entry.inode = none := by
  obtain ⟨clean, present⟩ := lookup_of_inspectPath stale.found
  have refuses := stale.refuses
  cases holder : host.listenerOf? entry.inode with
  | none => rfl
  | some l =>
    simp only [connectTo, clean, Bool.false_eq_true, if_false, present, stale.socket, holder] at refuses
    split at refuses
    · cases refuses
    · split at refuses
      · cases refuses
      · cases refuses

/-- One connection more waits at the listener, and is closed already. -/
def knocked (host : Host) (l : ListenerId) : Host :=
  { host with
    links := host.links ++ [Link.close false {}]
    listeners := host.listeners.set l
      { host.listener l with backlog := (host.listener l).backlog ++ [⟨host.links.length, true⟩] } }

theorem release_enqueue (host : Host) (l : ListenerId) :
    (host.enqueue l).2.release (host.enqueue l).1 = host.knocked l := by
  have fresh : (host.enqueue l).2.link (host.enqueue l).1 = {} := by
    show (host.links ++ [({} : Link)]).getD host.links.length {} = {}
    rw [List.getD_eq_getElem?_getD, List.getElem?_append_right (Nat.le_refl _), Nat.sub_self]
    rfl
  rw [release, onLink, fresh]
  show ({ host with links := (host.links ++ [({} : Link)]).set host.links.length _, listeners := _ } : Host) = _
  rw [List.set_append_right _ _ (Nat.le_refl _), Nat.sub_self]
  rfl

/-- A listener with a file of its own. -/
def opened (host : Host) (path : String) (place : List String) (mode : Nat) : Host :=
  { host with
    listeners := host.listeners ++ [{ path, inode := host.lastInode + 1 }]
    files := host.files ++ [⟨place, host.lastInode + 1, .socket, mode % 0o10000⟩]
    lastInode := host.lastInode + 1 }

theorem openListener_cases (host : Host) (path : String) (mode : Nat) :
    (∃ error, host.openListener path mode = (.error error, host)) ∨
      ∃ place, host.files.vacancy path = .ok place ∧ FileTree.namesDirectory path = false ∧
        host.openListener path mode = (.ok host.listeners.length, host.opened path place mode) := by
  unfold openListener
  split
  · exact .inl ⟨_, rfl⟩
  · rename_i place vacant
    split
    · exact .inl ⟨_, rfl⟩
    · rename_i file
      exact .inr ⟨place, vacant, by simpa using file, rfl⟩

/-- What making room at a path comes to, with what is removed for it. -/
inductive Clears (host : Host) (path : String) : List FileEntry → Except IoError Unit → Host → Prop
  | refused {error} : Clears host path [] (.error error) host
  | occupied {error holder} (leads : host.LeadsTo path holder) : Clears host path [] (.error error) (host.knocked holder)
  | free (free : host.IsFree path) : Clears host path [] (.ok ()) host
  | stale {file} (stale : host.IsStale path file) :
      Clears host path [file] (.ok ()) { host with files := host.files.remove file.place }

theorem clearPath_clears (host : Host) (short : (Bytes.ofText path).length < maxSocketPath) :
    ∃ gone, host.Clears path gone (host.clearPath path).1 (host.clearPath path).2 := by
  unfold clearPath
  cases found : host.inspectPath path with
  | error error =>
    dsimp only
    split
    · rename_i missing
      exact ⟨[], .free ⟨error, found, missing⟩⟩
    · exact ⟨[], .refused⟩
  | ok entry =>
    dsimp only
    split
    · exact ⟨[], .refused⟩
    · rename_i socket
      have socket : entry.kind = .socket := not_not.mp socket
      have reached := connectTo_of_socket found short socket
      cases holder : host.listenerOf? entry.inode with
      | some l =>
        rw [holder] at reached
        rw [reached]
        dsimp only
        rw [release_enqueue]
        exact ⟨[], .occupied ⟨entry, found, socket, holder⟩⟩
      | none =>
        rw [holder] at reached
        rw [reached]
        exact ⟨[entry], .stale ⟨found, socket, reached⟩⟩

/-- What binding comes to. -/
inductive Bound (host : Host) (path : String) (mode : Nat) : Except TransportError ListenerId → Host → Prop
  | refused {error} : Bound host path mode (.error error) host
  | occupied {error holder} (leads : host.LeadsTo path holder) : Bound host path mode (.error error) (host.knocked holder)
  | opened {gone room place} (clears : host.Clears path gone (.ok ()) room) (vacant : room.files.vacancy path = .ok place)
      (file : FileTree.namesDirectory path = false) :
      Bound host path mode (.ok host.listeners.length) (room.opened path place mode)

/-- After a stale socket is removed there is room for another. -/
theorem IsStale.openListener (stale : host.IsStale path entry) (sound : host.files.IsSound) (mode : Nat) :
    let room : Host := { host with files := host.files.remove entry.place }
    room.files.vacancy path = .ok entry.place ∧ FileTree.namesDirectory path = false ∧
      room.openListener path mode = (.ok host.listeners.length, room.opened path entry.place mode) := by
  intro room
  have found := (lookup_of_inspectPath stale.found).2
  obtain ⟨leads, member, file⟩ := (sound.lookup_eq_socket stale.socket).mp found
  have other : entry.kind ≠ .directory := by
    rw [stale.socket]
    exact nofun
  have vacant : room.files.vacancy path = .ok entry.place := by
    rw [FileTree.vacancy_eq_ok]
    exact ⟨FileTree.locate_keeps (sound.remove_keepsDirectories member other) leads, sound.remove_vacant member other⟩
  refine ⟨vacant, file, ?_⟩
  simp only [Host.openListener, vacant, file, Bool.false_eq_true, if_false]
  rfl

theorem bindWithMode_bound (sound : host.files.IsSound) (path : String) (mode : Nat) :
    host.Bound path mode (host.bindWithMode path mode).1 (host.bindWithMode path mode).2 := by
  unfold bindWithMode
  dsimp only
  split
  · exact .refused
  · rename_i short
    obtain ⟨gone, clears⟩ := host.clearPath_clears (Nat.not_le.mp short)
    generalize cleared : host.clearPath path = result at clears
    obtain ⟨result, room⟩ := result
    cases clears with
    | refused => exact .refused
    | occupied leads => exact .occupied leads
    | free free =>
      rcases room.openListener_cases path mode with ⟨error, failed⟩ | ⟨place, vacant, file, made⟩
      · simp only [failed]
        exact .refused
      · simp only [made]
        exact .opened (.free free) vacant file
    | stale stale =>
      obtain ⟨vacant, file, made⟩ := stale.openListener sound mode
      simp only [made]
      exact .opened (.stale stale) vacant file

/-- What a listener goes by is as before. -/
structure KeepsListener (l : ListenerId) (before after : Host) : Prop where
  path : (after.listener l).path = (before.listener l).path
  inode : (after.listener l).inode = (before.listener l).inode
  isOpen : (after.listener l).isOpen = (before.listener l).isOpen

theorem keepsListener_of_eq (same : after.listener l = host.listener l) : host.KeepsListener l after :=
  ⟨congrArg Listener.path same, congrArg Listener.inode same, congrArg Listener.isOpen same⟩

/-- A path goes on leading to a listener that stays as it is, if its socket file is not among those that are gone. -/
theorem LeadsTo.keeps {gone made : List FileEntry} (leads : host.LeadsTo path l) (tidy : host.Tidy) (tidy' : after.Tidy)
    (swaps : host.files.Swaps gone made after.files) (keeps : host.KeepsListener l after)
    (spared : ∀ file ∈ gone, host.listenerOf? file.inode ≠ some l) : after.LeadsTo path l := by
  obtain ⟨entry, found, socket, holder⟩ := leads
  obtain ⟨clean, present⟩ := lookup_of_inspectPath found
  obtain ⟨isOpen, own⟩ := open_of_listenerOf? holder
  have member : entry ∈ host.files := ((tidy.files.lookup_eq_socket socket).mp present).2.1
  have still : entry ∈ after.files := (swaps.mem_iff entry).mpr (.inl ⟨member, fun lost => spared entry lost holder⟩)
  refine ⟨entry, ?_, socket, ?_⟩
  · rw [inspectPath, clean]
    exact tidy.files.lookup_keeps swaps.sound swaps.keeps socket present still
  · exact tidy'.listenerOf?_eq_some.mpr ⟨keeps.isOpen.trans isOpen, keeps.inode.trans own⟩

/-- Whoever listens afterwards did so before, at the same file. -/
theorem Tidy.narrow (tidy : host.Tidy) (files : after.files.IsSound) (numbers : host.lastInode ≤ after.lastInode)
    (same : ∀ l, (after.listener l).isOpen = true →
      (host.listener l).isOpen = true ∧ (after.listener l).inode = (host.listener l).inode) : after.Tidy := by
  refine ⟨files, fun l l' isOpen isOpen' equal => ?_, fun l isOpen => ?_⟩
  · obtain ⟨before, own⟩ := same l isOpen
    obtain ⟨before', own'⟩ := same l' isOpen'
    exact tidy.distinct l l' before before' (own.symm.trans (equal.trans own'))
  · obtain ⟨before, own⟩ := same l isOpen
    rw [own]
    exact Nat.le_trans (tidy.numbered l before) numbers

/-- A file made by others is of no account to listeners. -/
theorem Tidy.addFile {place : List String} (tidy : host.Tidy) (vacant : host.files.vacancy path = .ok place)
    (kind : FileKind) (mode : Nat) : (host.addFile place kind mode).Tidy :=
  tidy.narrow (tidy.files.swaps_nothing.append vacant rfl).sound (Nat.le_succ _) fun _ isOpen => ⟨isOpen, rfl⟩

/-- So is what others remove. -/
theorem Tidy.remove (tidy : host.Tidy) (place : List String) :
    ({ host with files := host.files.remove place } : Host).Tidy :=
  tidy.narrow (tidy.files.remove place) (Nat.le_refl _) fun _ isOpen => ⟨isOpen, rfl⟩

theorem listener_set (host : Host) (l l' : ListenerId) (listener : Listener) :
    (host.listeners.set l listener).getD l' { path := "", inode := 0, isOpen := false } =
      if l = l' ∧ l < host.listeners.length then listener else host.listener l' := by
  rw [List.getD_eq_getElem?_getD, List.getElem?_set]
  split
  · rename_i same
    subst same
    split
    · rename_i inRange
      rw [if_pos ⟨rfl, inRange⟩]
      rfl
    · rename_i outside
      rw [if_neg (fun both => outside both.2), Host.listener, List.getD_eq_getElem?_getD,
        List.getElem?_eq_none (Nat.not_lt.mp outside)]
  · rename_i other
    rw [if_neg (fun both => other both.1), Host.listener, List.getD_eq_getElem?_getD]

theorem knocked_keeps (host : Host) (l holder : ListenerId) : host.KeepsListener l (host.knocked holder) := by
  have found : (host.knocked holder).listener l = _ := host.listener_set holder l _
  split at found
  · rename_i own
    obtain ⟨rfl, -⟩ := own
    refine ⟨?_, ?_, ?_⟩
    all_goals rw [found]
  · exact keepsListener_of_eq found

theorem Tidy.knocked (tidy : host.Tidy) (holder : ListenerId) : (host.knocked holder).Tidy := by
  refine tidy.narrow tidy.files (Nat.le_refl _) fun l isOpen => ?_
  have keeps := host.knocked_keeps l holder
  exact ⟨keeps.isOpen ▸ isOpen, keeps.inode⟩

theorem opened_listener_of_lt (host : Host) (path : String) (place : List String) (mode : Nat)
    (earlier : l < host.listeners.length) : (host.opened path place mode).listener l = host.listener l := by
  show (host.listeners ++ [_]).getD l _ = host.listener l
  rw [List.getD_eq_getElem?_getD, List.getElem?_append_left earlier, ← List.getD_eq_getElem?_getD]
  rfl

theorem opened_listener (host : Host) (path : String) (place : List String) (mode : Nat) :
    (host.opened path place mode).listener host.listeners.length = { path, inode := host.lastInode + 1 } := by
  show (host.listeners ++ [_]).getD host.listeners.length _ = _
  rw [List.getD_eq_getElem?_getD, List.getElem?_append_right (Nat.le_refl _), Nat.sub_self]
  rfl

/-- The new listener has a number that no other has. -/
theorem Tidy.opened {place : List String} (tidy : host.Tidy) (files : (host.opened path place mode).files.IsSound) :
    (host.opened path place mode).Tidy := by
  have cases l (isOpen : ((host.opened path place mode).listener l).isOpen = true) :
      ((host.listener l).isOpen = true ∧ ((host.opened path place mode).listener l).inode = (host.listener l).inode) ∨
        l = host.listeners.length ∧ ((host.opened path place mode).listener l).inode = host.lastInode + 1 := by
    have inRange : l < (host.listeners ++ [_]).length := inRange_of_open isOpen
    rw [List.length_append, List.length_singleton] at inRange
    rcases Nat.lt_succ_iff_lt_or_eq.mp inRange with earlier | rfl
    · rw [host.opened_listener_of_lt path place mode earlier] at isOpen ⊢
      exact .inl ⟨isOpen, rfl⟩
    · exact .inr ⟨rfl, by rw [opened_listener]⟩
  refine ⟨files, fun l l' isOpen isOpen' equal => ?_, fun l isOpen => ?_⟩
  · rcases cases l isOpen with ⟨before, own⟩ | ⟨rfl, own⟩ <;> rcases cases l' isOpen' with ⟨before', own'⟩ | ⟨rfl, own'⟩
    · exact tidy.distinct l l' before before' (own.symm.trans (equal.trans own'))
    · have bound := tidy.numbered l before
      omega
    · have bound := tidy.numbered l' before'
      omega
    · rfl
  · show _ ≤ host.lastInode + 1
    rcases cases l isOpen with ⟨before, own⟩ | ⟨rfl, own⟩
    · have bound := tidy.numbered l before
      omega
    · exact Nat.le_of_eq own

end Host
end CallWire
