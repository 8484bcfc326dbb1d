import CallWire.Proofs.ChannelFailure
import CallWire.Proofs.FrameTransfer

/-! What a channel takes off its stream, operation by operation: a frame at most for each time that it receives, from the
front, and nothing when it sends or is given another configuration. -/

namespace CallWire

/-- A frame that a stream can hold. -/
def IsProper (frame : Bytes) : Prop := headerSize ≤ frame.length ∧ frame.length ≤ maxFrameLength

theorem FrameReader.pull_proper {σ : Type} [ByteSource σ] (calls : Nat) (reader : FrameReader) (source : σ)
    {frame : Bytes} (given : (pull calls reader source).1 = .done (.ok (some frame))) : IsProper frame := by
  fun_induction pull calls reader source with
  | case2 calls reader source found rest decoded =>
    cases given
    obtain ⟨-, header, -, small⟩ := decodeFrame_eq_some.mp decoded
    exact ⟨header, Nat.le_of_lt_succ small⟩
  | case5 calls reader source other next read again calls' ih => exact ih given
  | case10 reader source incomplete piece next some read calls ih => exact ih given
  | _ => cases given

namespace Connection

/-- The frame that is given out if one is asked for. -/
def frame? (c : Connection) (host : Host) : Option Bytes :=
  match (c.reader.tryRead (host.endpoint c.socket)).1 with
  | .done (.ok found) => found
  | _ => none

/-- The bytes that were sent to the connection and are in no frame that was given out. -/
def unread (c : Connection) (host : Host) : Bytes := c.reader.buffer ++ (host.endpoint c.socket).inbox

section
variable (c : Connection) {host : Host}

theorem frame?_proper {frame : Bytes} (found : c.frame? host = some frame) : IsProper frame := by
  unfold frame? at found
  split at found
  · rename_i given
    subst found
    exact FrameReader.pull_proper _ c.reader (host.endpoint c.socket) given
  · cases found

theorem readMessage_unread (inRange : c.socket.connection < host.links.length) :
    c.unread host =
      (c.frame? host).toList.flatMap frameOf ++ (c.readMessage host).2.1.unread (c.readMessage host).2.2 := by
  obtain ⟨content, split, whole⟩ := c.reader.tryRead_takes (host.endpoint c.socket)
  have given : FrameReader.givenOut (c.reader.tryRead (host.endpoint c.socket)).1 = (c.frame? host).toList := by
    unfold frame? FrameReader.givenOut
    split
    · rename_i answer
      rw [answer]
      rfl
    · rename_i other
      split
      · rename_i found answer
        cases found with
        | none => rfl
        | some frame => exact absurd answer (other frame)
      · rfl
  have left : (c.readMessage host).2.1.unread (c.readMessage host).2.2 =
      (c.reader.tryRead (host.endpoint c.socket)).2.1.buffer ++ (c.reader.tryRead (host.endpoint c.socket)).2.2.inbox := by
    show _ ++ ((host.setEndpoint c.socket _).endpoint c.socket).inbox = _
    rw [Host.endpoint_setEndpoint inRange]
    rfl
  rw [left, unread, split, ← List.append_assoc, whole, given, List.append_assoc]

theorem readMessage_message (m : Message) :
    (c.readMessage host).1 = .done (.ok (some m)) ↔
      ∃ frame, c.frame? host = some frame ∧ messageOfFrame frame = .ok m := by
  simp only [readMessage, frame?]
  rcases (c.reader.tryRead (host.endpoint c.socket)).1 with (error | _ | frame) | _
  · simp
  · simp
  · cases parsed : messageOfFrame frame with
    | error error => simp [parsed, Except.map]
    | ok m => simp [parsed, Except.map]
  · simp

theorem reconfigure_eq {c' : Connection} {config : FrameConfig} {after : Host}
    (done : c.reconfigure config host = (.ok c', after)) :
    c' = { c with reader := { c.reader with config }, writer := { config } } := by
  unfold reconfigure at done
  split at done
  · cases done
    rfl
  · cases done

end
end Connection

namespace Channel
variable {channel next last : Channel} {host after final : Host} {frames more : List Bytes}

/-- The frame that the channel obtains if it receives. -/
def frame? (channel : Channel) (host : Host) : Option Bytes := channel.connection?.bind fun c => c.frame? host

/-- The channel takes these frames off the front of its stream, and nothing else if it stays connected. -/
structure Takes (channel : Channel) (host : Host) (frames : List Bytes) (next : Channel) (after : Host) : Prop where
  grows : host.links.length ≤ after.links.length
  front : ∀ c, channel.connection? = some c → ∃ rest, c.unread host = frames.flatMap frameOf ++ rest ∧
    ∀ c', next.connection? = some c' → c'.socket = c.socket ∧ c'.unread after = rest
  absent : channel.connection? = none → frames = [] ∧ next.connection? = none

theorem takes_nothing (channel : Channel) (host : Host) : channel.Takes host [] channel host := by
  refine ⟨Nat.le_refl _, fun c connected => ⟨_, rfl, fun c' same => ?_⟩, fun absent => ⟨rfl, absent⟩⟩
  cases connected.symm.trans same
  exact ⟨rfl, rfl⟩

theorem takes_of_closed (grows : host.links.length ≤ after.links.length) (closed : next.state = .closed) :
    channel.Takes host [] next after := by
  have parted : next.connection? = none := by
    rw [connection?, closed]
  refine ⟨grows, fun c connected => ⟨_, rfl, fun c' still => ?_⟩, fun absent => ⟨rfl, parted⟩⟩
  cases parted.symm.trans still

theorem Takes.trans (left : channel.Takes host frames next after) (right : next.Takes after more last final) :
    channel.Takes host (frames ++ more) last final := by
  refine ⟨Nat.le_trans left.grows right.grows, ?_, ?_⟩
  · intro c connected
    obtain ⟨rest, whole, stays⟩ := left.front c connected
    cases still : next.connection? with
    | none =>
      obtain ⟨rfl, gone⟩ := right.absent still
      rw [List.append_nil]
      exact ⟨rest, whole, fun c' found => nomatch gone.symm.trans found⟩
    | some c' =>
      obtain ⟨own, left⟩ := stays c' still
      obtain ⟨rest', whole', stays'⟩ := right.front c' still
      refine ⟨rest', ?_, fun c'' found => ?_⟩
      · rw [whole, ← left, whole', List.flatMap_append, List.append_assoc]
      · obtain ⟨own', left'⟩ := stays' c'' found
        exact ⟨own'.trans own, left'⟩
  · intro absent
    obtain ⟨rfl, gone⟩ := left.absent absent
    exact right.absent gone

theorem close_takes (channel : Channel) (host : Host) :
    channel.Takes host [] (channel.close host).1 (channel.close host).2 :=
  takes_of_closed (Nat.le_of_eq (channel.close_sameInboxes host).length.symm) (by rw [close_state])

theorem fail_takes (channel : Channel) (host : Host) (error : ChannelError) :
    channel.Takes host [] (channel.fail error host).1 (channel.fail error host).2 := by
  unfold fail
  split
  · exact channel.takes_nothing host
  · exact channel.close_takes host

/-- The channel's connection is one that there is. -/
abbrev InRange (channel : Channel) (host : Host) : Prop :=
  ∀ c, channel.connection? = some c → c.socket.connection < host.links.length

theorem Takes.inRange (takes : channel.Takes host frames next after) (inRange : channel.InRange host) :
    next.InRange after := by
  intro c' still
  cases connected : channel.connection? with
  | none => cases (takes.absent connected).2.symm.trans still
  | some c =>
    obtain ⟨_, _, stays⟩ := takes.front c connected
    rw [(stays c' still).1]
    exact Nat.lt_of_lt_of_le (inRange c connected) takes.grows

theorem frame?_of_connection {c : Connection} (connected : channel.connection? = some c) :
    channel.frame? host = c.frame? host := by
  rw [frame?, connected, Option.bind_some]

theorem connection?_of_unestablished {error : ChannelError} (failed : channel.established = .error error) :
    channel.connection? = none := by
  cases connected : channel.connection? with
  | none => rfl
  | some c => cases (established_of_connection connected).symm.trans failed

theorem sendRaw_takes (inRange : channel.InRange host) (content : Bytes) :
    channel.Takes host [] (channel.sendRaw content host).2.1 (channel.sendRaw content host).2.2 := by
  unfold sendRaw
  split
  · exact channel.fail_takes host _
  · rename_i c established
    have connected := connection?_of_established established
    have sent : channel.Takes host [] channel (c.send content host).2 := by
      have grows : host.links.length ≤ (c.send content host).2.links.length := Nat.le_of_eq (Host.setLink_length ..).symm
      refine ⟨grows, fun c' own => ⟨_, rfl, fun c'' again => ?_⟩, fun absent => ⟨rfl, absent⟩⟩
      cases connected.symm.trans own
      cases connected.symm.trans again
      exact ⟨rfl, congrArg (c.reader.buffer ++ ·) (c.send_inbox (inRange c connected) content)⟩
    split
    · rename_i done
      rwa [done] at sent
    · rename_i done
      rwa [done] at sent
    · rename_i done
      rw [done] at sent
      exact sent.trans (fail_takes _ _ _)

theorem recv_takes (inRange : channel.InRange host) :
    channel.Takes host (channel.frame? host).toList (channel.recv host).2.1 (channel.recv host).2.2 := by
  unfold recv
  split
  · rename_i failed
    rw [frame?, connection?_of_unestablished failed]
    exact channel.fail_takes host _
  · rename_i c established
    have connected := connection?_of_established established
    have read : channel.Takes host (c.frame? host).toList (channel.setConnection (c.readMessage host).2.1)
        (c.readMessage host).2.2 := by
      have grows : host.links.length ≤ (c.readMessage host).2.2.links.length :=
        Nat.le_of_eq (Host.setLink_length ..).symm
      refine ⟨grows, fun c' own => ?_, fun absent => nomatch connected.symm.trans absent⟩
      cases connected.symm.trans own
      refine ⟨_, c.readMessage_unread (inRange c connected), fun c' still => ?_⟩
      obtain ⟨_, _, _, present⟩ := setConnection_of_connection connected (c.readMessage host).2.1
      cases present.symm.trans still
      exact ⟨rfl, rfl⟩
    rw [frame?_of_connection connected]
    dsimp only
    split
    · rename_i error _
      have failed := read.trans (fail_takes _ _ error)
      rwa [List.append_nil] at failed
    · exact read

theorem recv_message (channel : Channel) (host : Host) (m : Message) :
    (channel.recv host).1 = .done (.ok m) ↔ ∃ frame, channel.frame? host = some frame ∧ messageOfFrame frame = .ok m := by
  unfold recv
  split
  · rename_i failed
    simp [frame?, connection?_of_unestablished failed]
  · rename_i c established
    rw [frame?_of_connection (connection?_of_established established), ← c.readMessage_message]
    dsimp only
    rcases (c.readMessage host).1 with (error | _ | other) | _
    all_goals simp [FrameReader.required]

/-- What is buffered stays as it is under another configuration. -/
theorem withConfig_takes (channel : Channel) (host : Host) (config : FrameConfig) :
    channel.Takes host [] (((channel.withConfig config host).1.toOption).getD { channel with state := .closed })
      (channel.withConfig config host).2 := by
  unfold withConfig
  split
  · exact takes_of_closed (Nat.le_refl _) rfl
  · rename_i error _ failed
    have absent := connection?_of_unestablished failed
    refine ⟨Nat.le_refl _, fun c connected => ?_, fun _ => ⟨rfl, absent⟩⟩
    cases absent.symm.trans connected
  · rename_i c established
    have connected := connection?_of_established established
    have quiet := c.reconfigure_quiet c.socket host config
    split
    · rename_i c' after done
      rw [done] at quiet
      obtain ⟨_, same, _, present⟩ := setConnection_of_connection connected c'
      refine ⟨quiet.grows, fun c'' own => ⟨_, rfl, fun c''' still => ?_⟩, ?_⟩
      case refine_2 =>
        intro absent
        cases connected.symm.trans absent
      cases connected.symm.trans own
      cases present.symm.trans still
      have inbox := quiet.inbox
      rw [List.append_nil] at inbox
      obtain rfl := c.reconfigure_eq done
      exact ⟨rfl, congrArg (c.reader.buffer ++ ·) inbox⟩
    · rename_i error after done
      rw [done] at quiet
      exact takes_of_closed (Nat.le_trans quiet.grows (channel.close_takes after).grows) rfl

theorem recvReply_takes (inRange : channel.InRange host) (request : Message) :
    channel.Takes host (channel.frame? host).toList (channel.recvReply request host).2.1
      (channel.recvReply request host).2.2 := by
  have same : (channel.recvReply request host).2 = (channel.recv host).2 :=
    (Prod.mk.inj (ChannelOperation.forget_recvReply request channel host)).2
  rw [same]
  exact recv_takes inRange

theorem checkReply_eq_ok {request reply : Message} :
    checkReply request reply = .ok () ↔ reply.type = .ok .response ∧ reply.callId = request.callId := by
  unfold checkReply
  split
  · rename_i unknown
    simp [unknown]
  · rename_i kind
    simp [kind]
  · rename_i kind
    split
    · rename_i own
      simp [kind, own]
    · rename_i other
      simp [other]

/-- A reply is a message that passes the check. -/
theorem recvReply_message (channel : Channel) (host : Host) (request reply : Message) :
    (channel.recvReply request host).1 = .done (.ok reply) ↔
      (channel.recv host).1 = .done (.ok reply) ∧ reply.type = .ok .response ∧ reply.callId = request.callId := by
  rw [← checkReply_eq_ok]
  unfold recvReply
  generalize channel.recv host = result
  obtain ⟨outcome, next, after⟩ := result
  rcases outcome with (error | m) | _
  · simp
  · simp only [Outcome.done.injEq, Except.ok.injEq]
    cases checked : checkReply request m with
    | error error =>
      simp only [Except.map, reduceCtorEq, false_iff, not_and]
      rintro rfl
      simp [checked]
    | ok =>
      simp only [Except.map, Except.ok.injEq]
      constructor
      · rintro rfl
        exact ⟨rfl, checked⟩
      · exact And.left
  · simp

end Channel
end CallWire
