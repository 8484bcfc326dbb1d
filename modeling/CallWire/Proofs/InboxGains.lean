import CallWire.Proofs.FrameSending
import CallWire.Proofs.RequestService

/-! What comes to a socket while operations go on about its host. Sending at the other end of its connection adds to
what it holds, reading at the socket itself takes away, and all else leaves it alone. -/

namespace CallWire

theorem SocketId.eq_or_eq_peer {p t : SocketId} (same : t.connection = p.connection) : t = p ∨ t.peer = p := by
  obtain ⟨_, side⟩ := p
  obtain ⟨_, side'⟩ := t
  cases same
  cases side <;> cases side' <;> simp [peer]

namespace Host

/-- What waits to be accepted is the accepted end of a connection that there is. -/
def Sound (host : Host) : Prop :=
  ∀ l, ∀ t ∈ (host.listener l).backlog, t.isAccepted = true ∧ t.connection < host.links.length

/-- A socket came to hold these bytes too. No connection vanished, and what was put up to be accepted since is sound. -/
structure Gains (p : SocketId) (part : Bytes) (before after : Host) : Prop where
  grows : before.links.length ≤ after.links.length
  inbox : (after.endpoint p).inbox = (before.endpoint p).inbox ++ part
  backlog : ∀ l, ∀ t ∈ (after.listener l).backlog,
    t ∈ (before.listener l).backlog ∨ t.isAccepted = true ∧ t.connection < after.links.length

abbrev Quiet (p : SocketId) (before after : Host) : Prop := Gains p [] before after

section
variable {p t : SocketId} {first second third host : Host} {part more : Bytes}

theorem Gains.trans (left : Gains p part first second) (right : Gains p more second third) :
    Gains p (part ++ more) first third := by
  refine ⟨Nat.le_trans left.grows right.grows, ?_, fun l t waits => ?_⟩
  · rw [right.inbox, left.inbox, List.append_assoc]
  · rcases right.backlog l t waits with waited | new
    · rcases left.backlog l t waited with waited | ⟨accepted, inRange⟩
      · exact .inl waited
      · exact .inr ⟨accepted, Nat.lt_of_lt_of_le inRange right.grows⟩
    · exact .inr new

theorem Quiet.trans (left : Quiet p first second) (right : Quiet p second third) : Quiet p first third :=
  Gains.trans left right

theorem Gains.quietly (left : Gains p part first second) (right : Quiet p second third) : Gains p part first third := by
  have both := left.trans right
  rwa [List.append_nil] at both

theorem Gains.sound (gains : Gains p part first second) (sound : first.Sound) : second.Sound := by
  intro l t waits
  rcases gains.backlog l t waits with waited | new
  · obtain ⟨accepted, inRange⟩ := sound l t waited
    exact ⟨accepted, Nat.lt_of_lt_of_le inRange gains.grows⟩
  · exact new

/-- Only the bytes under way matter. -/
theorem SameInboxes.quiet (same : first.SameInboxes second) (listeners : second.listeners = first.listeners) :
    first.Quiet p second := by
  refine ⟨Nat.le_of_eq same.length.symm, ?_, fun l t waits => .inl ?_⟩
  · rw [same.inbox, List.append_nil]
  · rwa [listener, listeners] at waits

theorem quiet_refl (p : SocketId) (host : Host) : host.Quiet p host := SameInboxes.quiet ⟨rfl, fun _ => rfl⟩ rfl

theorem endpoint_setLink_of_ne (other : t.connection ≠ p.connection) (l : Link) :
    (host.setLink t l).endpoint p = host.endpoint p := by
  unfold endpoint link setLink
  rw [List.getD_eq_getElem?_getD, List.getElem?_set_ne other, List.getD_eq_getElem?_getD]

theorem gains_setLink {l : Link} (near : t = p → l.near.inbox = (host.endpoint p).inbox ++ part)
    (far : t.peer = p → l.far.inbox = (host.endpoint p).inbox ++ part) (inRange : t.connection < host.links.length)
    (concerned : t.connection = p.connection ∨ part = []) : host.Gains p part (host.setLink t l) := by
  refine ⟨Nat.le_of_eq (setLink_length ..).symm, ?_, fun l t waits => .inl waits⟩
  by_cases same : t.connection = p.connection
  · rcases SocketId.eq_or_eq_peer same with rfl | rfl
    · rw [endpoint, link_setLink inRange, near rfl]
    · rw [endpoint_peer, link_setLink inRange, far rfl]
  · rw [endpoint_setLink_of_ne same, concerned.resolve_left same, List.append_nil]

theorem quiet_setLink {l : Link} (near : t = p → l.near.inbox = (host.endpoint p).inbox)
    (far : t.peer = p → l.far.inbox = (host.endpoint p).inbox) : host.Quiet p (host.setLink t l) := by
  by_cases inRange : t.connection < host.links.length
  · refine gains_setLink (fun own => ?_) (fun own => ?_) inRange (.inr rfl)
    · rw [near own, List.append_nil]
    · rw [far own, List.append_nil]
  · have outside : host.setLink t l = host := by
      unfold setLink
      rw [List.set_eq_of_length_le (Nat.not_lt.mp inRange)]
    rw [outside]
    exact quiet_refl p host

end

section
variable (p : SocketId) (host : Host)

theorem shutdown_quiet (t : SocketId) (direction : Direction) : host.Quiet p (host.shutdown t direction) :=
  (host.shutdown_sameInboxes t direction).quiet rfl

theorem release_quiet (t : SocketId) : host.Quiet p (host.release t) := (host.release_sameInboxes t).quiet rfl

theorem duplicate_quiet (t : SocketId) : host.Quiet p (host.duplicate t) := by
  have same : host.SameInboxes (host.onLink t Link.duplicate) := host.onLink_sameInboxes t fun _ => ⟨rfl, rfl⟩
  exact same.quiet rfl

theorem setControl_quiet (c : ControlId) (control : Control) : host.Quiet p (host.setControl c control) :=
  SameInboxes.quiet ⟨rfl, fun _ => rfl⟩ rfl

theorem newControl_quiet (control : Control) : host.Quiet p (host.newControl control).2 :=
  SameInboxes.quiet ⟨rfl, fun _ => rfl⟩ rfl

theorem unregister_quiet (c : ControlId) : host.Quiet p (host.unregister c) := by
  refine (host.unregister_sameInboxes c).quiet ?_
  unfold unregister
  split
  · rfl
  · rfl

theorem register_quiet (c : ControlId) (t : SocketId) : host.Quiet p (host.register c t) :=
  ((host.unregister_quiet p c).trans (duplicate_quiet p _ t)).trans (setControl_quiet p _ c _)

theorem setTimeouts_quiet (t : SocketId) (reading writing : Option Nat) :
    host.Quiet p (host.setTimeouts t reading writing).2 := by
  have timed (e : Endpoint) (same : e.inbox = (host.endpoint t).inbox) : host.Quiet p (host.setEndpoint t e) := by
    refine quiet_setLink ?_ ?_
    · rintro rfl
      exact same
    · rintro rfl
      exact congrArg _ (endpoint_peer host t).symm
  unfold setTimeouts Endpoint.setReadTimeout Endpoint.setWriteTimeout
  cases Endpoint.checkTimeout reading with
  | error error => exact quiet_refl p host
  | ok =>
    cases Endpoint.checkTimeout writing with
    | error error => exact timed _ rfl
    | ok => exact timed _ rfl

variable {p host} in
theorem quiet_setListener {l : ListenerId} {listener : Listener}
    (kept : ∀ t ∈ listener.backlog,
      t ∈ (host.listener l).backlog ∨ t.isAccepted = true ∧ t.connection < host.links.length) :
    host.Quiet p (host.setListener l listener) := by
  refine ⟨Nat.le_refl _, (List.append_nil _).symm, fun l' t waits => ?_⟩
  unfold setListener at waits
  rw [Host.listener, List.getD_eq_getElem?_getD, List.getElem?_set] at waits
  by_cases own : l = l'
  · subst own
    rw [if_pos rfl] at waits
    split at waits
    · exact kept t waits
    · cases waits
  · rw [if_neg own, ← List.getD_eq_getElem?_getD] at waits
    exact .inl waits

theorem closeListener_quiet (l : ListenerId) : host.Quiet p (host.closeListener l) := by
  have reset (waiting : List SocketId) (host : Host) :
      host.Quiet p (waiting.foldl (fun host t => host.onLink t (Link.close true)) host) := by
    induction waiting generalizing host with
    | nil => exact quiet_refl p host
    | cons t rest ih =>
      have same : host.SameInboxes (host.onLink t (Link.close true)) := host.onLink_sameInboxes t fun _ => ⟨rfl, rfl⟩
      exact (same.quiet rfl).trans (ih _)
  exact (reset _ host).trans (quiet_setListener (by simp))

theorem setFiles_quiet (files : FileTree) : host.Quiet p { host with files } := SameInboxes.quiet ⟨rfl, fun _ => rfl⟩ rfl

theorem dropListener_quiet (l : ListenerId) : host.Quiet p (host.dropListener l) := by
  unfold dropListener
  refine Quiet.trans ?_ (closeListener_quiet p _ l)
  split
  · split
    · exact setFiles_quiet p host _
    · exact quiet_refl p host
  · exact quiet_refl p host

theorem accept_quiet (l : ListenerId) : host.Quiet p (host.accept l).2 := by
  unfold accept
  dsimp only
  split
  · exact quiet_refl p host
  · rename_i s rest backlog
    refine quiet_setListener fun t waits => .inl ?_
    rw [backlog]
    exact List.mem_cons_of_mem s waits

/-- One more entry is not noticed where it looks like an entry that is missing. -/
theorem getD_concat {α β : Type} (f : α → β) {x d : α} (same : f x = f d) (xs : List α) (i : Nat) :
    f ((xs ++ [x]).getD i d) = f (xs.getD i d) := by
  rw [List.getD_eq_getElem?_getD, List.getD_eq_getElem?_getD]
  by_cases inside : i < xs.length
  · rw [List.getElem?_append_left inside]
  · rw [List.getElem?_append_right (Nat.not_lt.mp inside), List.getElem?_eq_none (Nat.not_lt.mp inside)]
    cases i - xs.length with
    | zero => exact same
    | succ _ => rfl

/-- A new connection looks like one that nobody has used. -/
theorem enqueue_link (l : ListenerId) (t : SocketId) : (host.enqueue l).2.link t = host.link t := by
  have same : (host.links ++ [({} : Link)]).getD t.connection {} = host.links.getD t.connection {} :=
    getD_concat id rfl host.links t.connection
  exact congrArg (fun found : Link => if t.isAccepted then found.swap else found) same

theorem enqueue_quiet (l : ListenerId) : host.Quiet p (host.enqueue l).2 := by
  let joined : Host := { host with links := host.links ++ [({} : Link)] }
  have longer : joined.links.length = host.links.length + 1 := List.length_append
  have start : host.Quiet p joined := by
    refine ⟨by omega, ?_, fun l t waits => .inl waits⟩
    rw [endpoint, endpoint, List.append_nil, ← host.enqueue_link l p]
    rfl
  refine start.trans (quiet_setListener fun t waits => ?_)
  rcases List.mem_append.mp waits with waited | new
  · exact .inl waited
  · rw [List.mem_singleton.mp new]
    exact .inr ⟨rfl, by rw [longer]; exact Nat.lt_succ_self _⟩

theorem connectTo_cases (path : String) : (∃ error, host.connectTo path = (.error error, host)) ∨
    ∃ l, host.connectTo path = (.ok (host.enqueue l).1, (host.enqueue l).2) := by
  unfold connectTo
  split
  · exact .inl ⟨_, rfl⟩
  · split
    · exact .inl ⟨_, rfl⟩
    · split
      · exact .inl ⟨_, rfl⟩
      · split
        · exact .inl ⟨_, rfl⟩
        · split
          · exact .inr ⟨_, rfl⟩
          · exact .inl ⟨_, rfl⟩

theorem connectTo_quiet (path : String) : host.Quiet p (host.connectTo path).2 := by
  rcases host.connectTo_cases path with ⟨error, refused⟩ | ⟨l, joined⟩
  · rw [refused]
    exact quiet_refl p host
  · rw [joined]
    exact enqueue_quiet p host l

theorem clearPath_quiet (path : String) : host.Quiet p (host.clearPath path).2 := by
  have reached := host.connectTo_quiet p path
  unfold clearPath
  split
  · exact quiet_refl p host
  · split
    · exact quiet_refl p host
    · split
      · rename_i connected
        rw [connected] at reached
        exact reached.trans (release_quiet p _ _)
      · rename_i refused
        rw [refused] at reached
        split
        · exact reached.trans (setFiles_quiet p _ _)
        · exact reached

theorem addListener_quiet {new : Listener} (lonely : new.backlog = []) :
    host.Quiet p { host with listeners := host.listeners ++ [new] } := by
  refine ⟨Nat.le_refl _, (List.append_nil _).symm, fun l t waits => .inl ?_⟩
  have same := getD_concat Listener.backlog (d := { path := "", inode := 0, isOpen := false }) lonely host.listeners l
  exact same ▸ waits

theorem openListener_quiet (path : String) (mode : Nat) : host.Quiet p (host.openListener path mode).2 := by
  have filed (place : List String) : host.Quiet p (host.addFile place .socket (mode % 0o10000)) :=
    SameInboxes.quiet ⟨rfl, fun _ => rfl⟩ rfl
  unfold openListener
  split
  · exact quiet_refl p host
  · split
    · exact quiet_refl p host
    · exact (filed _).trans (addListener_quiet p _ rfl)

theorem bind_quiet (path : String) : host.Quiet p (host.bind path).2 := by
  have cleared := host.clearPath_quiet p path
  unfold bind bindWithMode
  dsimp only
  split
  · exact quiet_refl p host
  · split
    · rename_i refused
      rwa [refused] at cleared
    · rename_i free
      rw [free] at cleared
      exact cleared.trans (openListener_quiet p _ path defaultSocketMode)

end
end Host

section
variable (p : SocketId) (host : Host)

theorem ShutdownHandle.knock_quiet (handle : ShutdownHandle) : host.Quiet p (handle.knock host) := by
  unfold knock
  split
  · exact host.quiet_refl p
  · rename_i path _
    have reached : host.Quiet p (host.connect path).2 := host.connectTo_quiet p path
    split
    · rename_i s after connected
      rw [connected] at reached
      exact reached.trans (after.release_quiet p s)
    · rename_i after connected
      rwa [connected] at reached

theorem ShutdownHandle.shutdown_quiet (handle : ShutdownHandle) : host.Quiet p (handle.shutdown host) := by
  have noted : host.Quiet p (handle.request host) := host.setControl_quiet p _ _
  unfold shutdown interrupt
  refine noted.trans ?_
  split
  · rename_i found
    split at found
    · cases found
      exact Host.shutdown_quiet p _ _ _
    · cases found
  · rename_i found
    split at found
    · cases found
    · cases found
      exact knock_quiet p _ handle

theorem Session.perform_quiet (handle : ShutdownHandle) (actions : List HandlerAction) (slot : ReplySlot) :
    host.Quiet p (perform handle actions slot host).2 := by
  induction actions generalizing slot host with
  | nil => exact host.quiet_refl p
  | cons action rest ih =>
    cases action with
    | place reply => exact ih host _
    | withdraw => exact ih host _
    | shutdown => exact (handle.shutdown_quiet p host).trans (ih _ slot)

namespace Connection

theorem drop_quiet (c : Connection) : host.Quiet p (c.drop host) :=
  (host.release_quiet p c.socket).trans (Host.release_quiet p _ c.socket)

theorem hangUp_quiet (c : Connection) : host.Quiet p (c.hangUp host) :=
  (host.shutdown_quiet p c.socket .both).trans (drop_quiet p _ c)

theorem attach_quiet (s : SocketId) (config : FrameConfig) (control : ControlId) :
    host.Quiet p (attach host s config control).2 := by
  have used := (host.duplicate_quiet p s).trans (Host.register_quiet p _ control s)
  have timed := used.trans (Host.setTimeouts_quiet p _ s config.readTimeout config.writeTimeout)
  unfold attach
  dsimp only
  split
  · rename_i set
    simp only [set] at timed
    exact timed
  · rename_i set
    simp only [set] at timed
    exact timed.trans (drop_quiet p _ _)

theorem reconfigure_quiet (c : Connection) (config : FrameConfig) : host.Quiet p (c.reconfigure config host).2 := by
  have timed := host.setTimeouts_quiet p c.socket config.readTimeout config.writeTimeout
  unfold reconfigure
  split
  · rename_i set
    rwa [set] at timed
  · rename_i set
    rwa [set] at timed

/-- Reading takes bytes away from the socket that reads, and from no other. -/
theorem readMessage_quiet (c : Connection) (apart : c.socket ≠ p) : host.Quiet p (c.readMessage host).2.2 := by
  refine Host.quiet_setLink (fun own => absurd own apart) ?_
  rintro rfl
  exact congrArg _ (host.endpoint_peer c.socket).symm

end Connection

namespace Channel

theorem close_quiet (channel : Channel) : host.Quiet p (channel.close host).2 := by
  have parted := host.unregister_quiet p channel.control
  unfold close
  split
  · exact host.quiet_refl p
  · exact parted.trans (Connection.hangUp_quiet p _ _)
  · exact parted.trans (Host.dropListener_quiet p _ _)
  · exact (parted.trans (Host.dropListener_quiet p _ _)).trans (Connection.hangUp_quiet p _ _)

theorem detachPeer_quiet (channel : Channel) : host.Quiet p (channel.detachPeer host).2 := by
  have parted := host.unregister_quiet p channel.control
  unfold detachPeer
  split
  · rename_i l peer _
    cases peer with
    | none => exact parted
    | some c => exact parted.trans (Connection.hangUp_quiet p _ _)
  · exact channel.close_quiet p host

theorem fail_quiet (channel : Channel) (error : ChannelError) : host.Quiet p (channel.fail error host).2 := by
  unfold fail
  split
  · exact host.quiet_refl p
  · exact channel.close_quiet p host

end Channel
end
end CallWire
