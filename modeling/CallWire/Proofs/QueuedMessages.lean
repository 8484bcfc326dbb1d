import CallWire.Proofs.ServedConnection

/-! Messages on their way. What lies between a writer and a reader is a queue of whole frames, of which the reader has a
front part; it takes the messages off one by one, or has to wait for the rest of the first. -/

namespace CallWire

/-- A valid message that one end may send and the other may receive. -/
structure Message.Passes (m : Message) (sending receiving : Nat) : Prop where
  valid : m.validate = .ok ()
  sent : m.length ≤ sending
  received : m.length ≤ receiving
  announced : m.length ≤ maxFrameLength

/-- The bytes of some messages, one frame after the other. -/
def streamOf (queue : List Message) : Bytes := queue.flatMap fun m => frameOf m.bytes

theorem streamOf_append (first second : List Message) : streamOf (first ++ second) = streamOf first ++ streamOf second :=
  List.flatMap_append

/-- An end of a connection at which nothing is amiss but interruptions. -/
structure Endpoint.Calm (e : Endpoint) : Prop where
  unreset : e.isReset = false
  unended : e.isEnded = false
  reads : ∀ turn ∈ e.readTurns, turn.IsBenign
  writes : ∀ turn ∈ e.writeTurns, turn.IsBenign

structure Link.Calm (l : Link) : Prop where
  near : l.near.Calm
  far : l.far.Calm

namespace Link.Calm
variable {l : Link}

theorem steady (calm : l.Calm) : l.Steady := ⟨calm.near.unreset, calm.near.reads, calm.near.writes, calm.far.unended⟩

theorem swap (calm : l.Calm) : l.swap.Calm := ⟨calm.far, calm.near⟩

theorem written (calm : l.Calm) {turns : List WriteTurn} (benign : ∀ turn ∈ turns, turn.IsBenign) (content : Bytes) :
    (l.written turns content).Calm :=
  ⟨⟨calm.near.unreset, calm.near.unended, calm.near.reads, benign⟩,
    ⟨calm.far.unreset, calm.far.unended, calm.far.reads, calm.far.writes⟩⟩

theorem emptied (calm : l.Calm) {turns : List ReadTurn} (benign : ∀ turn ∈ turns, turn.IsBenign) (content : Bytes) :
    Link.Calm { l with near := { l.near with inbox := content, readTurns := turns } } :=
  ⟨⟨calm.near.unreset, calm.near.unended, benign, calm.near.writes⟩, calm.far⟩

end Link.Calm

namespace Message
variable {m : Message} {sending receiving : Nat}

theorem Passes.ofFrame (passes : m.Passes sending receiving) : messageOfFrame m.bytes = .ok m := by
  rw [messageOfFrame, ofBytes_bytes]
  simp only [passes.valid]

theorem Passes.encoded (passes : m.Passes sending receiving) : encodeMessage sending m [] = .ok (frameOf m.bytes) := by
  have small : m.bytes.length ≤ maxFrameLength := passes.announced
  rw [encodeMessage, if_neg (Nat.not_lt.mpr passes.sent), encodeFrame, if_pos small]
  rfl

theorem Passes.decoded (passes : m.Passes sending receiving) (rest : List Message) :
    decodeFrame receiving (streamOf (m :: rest)) = .ok (some (m.bytes, streamOf rest)) := by
  have small : m.bytes.length < 2 ^ 32 := Nat.lt_succ_of_le passes.announced
  have header : headerSize ≤ m.bytes.length := Nat.le_trans (headerSize_le_minimumLength _) m.minimumLength_bytes
  exact decodeFrame_eq_some.mpr ⟨rfl, header, passes.received, small⟩

end Message

/-- What a reader makes of a front part of a queue: it is not enough for the first message, or that comes off. -/
inductive FromQueue (behind : Bytes) : List Message → Except ChannelError (Option (Bytes × Bytes)) → Prop
  | short {queue} (all : behind = [] → queue = []) : FromQueue behind queue (.ok none)
  | first {m queue rest} (left : rest ++ behind = streamOf queue) : FromQueue behind (m :: queue) (.ok (some (m.bytes, rest)))

theorem decodeFrame_fromQueue {sending receiving : Nat} {queue : List Message} {front behind : Bytes}
    (passes : ∀ m ∈ queue, m.Passes sending receiving) (split : front ++ behind = streamOf queue) :
    FromQueue behind queue (decodeFrame receiving front) := by
  have nothing : decodeFrame receiving [] = .ok none := decodeFrame_short receiving (by decide)
  cases decoded : decodeFrame receiving front with
  | error error =>
    have all := decodeFrame_append_error decoded behind
    rw [split] at all
    cases queue with
    | nil => cases nothing.symm.trans all
    | cons m rest => cases ((passes m (by simp)).decoded rest).symm.trans all
  | ok found =>
    cases found with
    | none =>
      apply FromQueue.short
      intro all
      rw [all, List.append_nil] at split
      cases queue with
      | nil => rfl
      | cons m rest =>
        rw [split, (passes m (by simp)).decoded rest] at decoded
        cases decoded
    | some found =>
      obtain ⟨frame, rest⟩ := found
      have all := decodeFrame_append_some decoded behind
      rw [split] at all
      cases queue with
      | nil => cases nothing.symm.trans all
      | cons m others =>
        rw [(passes m (by simp)).decoded others] at all
        simp only [Except.ok.injEq, Option.some.injEq, Prod.mk.injEq] at all
        obtain ⟨rfl, left⟩ := all
        exact .first left.symm

namespace Connection

/-- What a connection reads off a queue, by what it then has of it and what remains. -/
inductive Reads (behind : Bytes) : List Message → Bytes → Outcome (Option Message) → Prop
  | waits {queue front} (split : front ++ behind = streamOf queue) (all : behind = [] → queue = []) :
      Reads behind queue front .waiting
  | message {m queue front} (split : front ++ behind = streamOf queue) :
      Reads behind (m :: queue) front (.done (.ok (some m)))

theorem readMessage_queued (c : Connection) {host : Host} (calm : (host.link c.socket).Calm) {sending : Nat}
    {queue : List Message} {behind : Bytes} (passes : ∀ m ∈ queue, m.Passes sending c.reader.config.maxSize)
    (split : c.reader.buffer ++ (host.endpoint c.socket).inbox ++ behind = streamOf queue) :
    ∃ outcome reader content turns, c.readMessage host = (outcome, { c with reader }, host.setEndpoint c.socket
        { host.endpoint c.socket with inbox := content, readTurns := turns }) ∧
      (∀ turn ∈ turns, ReadTurn.IsBenign turn) ∧ reader.config = c.reader.config ∧
      content.length ≤ (host.endpoint c.socket).inbox.length ∧ Reads behind queue (reader.buffer ++ content) outcome := by
  obtain ⟨reader, content, turns, benign, config, remains, shrinks, read⟩ := c.readMessage_answered calm.steady
  refine ⟨_, reader, content, turns, read, benign, config, shrinks, ?_⟩
  have fromQueue := decodeFrame_fromQueue passes split
  have waiting : (host.endpoint c.socket).ending = .waiting := by
    unfold Endpoint.ending
    rw [show (host.endpoint c.socket).isEnded = false from calm.near.unended]
    rfl
  simp only [FrameReader.answer] at remains ⊢
  cases decoded : decodeFrame c.reader.config.maxSize (c.reader.buffer ++ (host.endpoint c.socket).inbox) with
  | error error =>
    rw [decoded] at fromQueue
    cases fromQueue
  | ok found =>
    rw [decoded] at fromQueue remains
    cases fromQueue with
    | short all =>
      change reader.buffer ++ content = c.reader.buffer ++ (host.endpoint c.socket).inbox at remains
      rw [waiting]
      rw [← remains] at split
      exact .waits split all
    | @first m queue rest left =>
      change reader.buffer ++ content = rest at remains
      have found := (passes m (by simp)).ofFrame
      simp only [messageIn, found]
      rw [← remains] at left
      exact .message left

/-- A message that passes is sent as its frame. -/
theorem send_passes (c : Connection) {host : Host} (calm : (host.link c.socket).Calm) {m : Message} {receiving : Nat}
    (passes : m.Passes c.writer.config.maxSize receiving) :
    ∃ turns, (∀ turn ∈ turns, WriteTurn.IsBenign turn) ∧
      c.send m.bytes host =
        (.ok (), host.setLink c.socket ((host.link c.socket).written turns (frameOf m.bytes))) := by
  obtain ⟨turns, benign, sent⟩ := c.writer.send_steady calm.steady passes.encoded
  refine ⟨turns, benign, ?_⟩
  rw [send, sent]

end Connection

namespace Handler
variable {ρ : Type}

/-- The handler leaves in the slot, whatever it is asked, a message that can be sent. -/
def Answers (handler : Handler ρ) (sending receiving : Nat) : Prop :=
  ∀ memory m, .shutdown ∉ (handler memory m).2 ∧
    ∃ reply, HandlerAction.lastPlaced (handler memory m).2 = some reply ∧ reply.Passes sending receiving

/-- What the handler replies to some requests, one after the other. -/
def replies (handler : Handler ρ) : ρ → List Message → List Message
  | _, [] => []
  | memory, m :: rest =>
    (HandlerAction.lastPlaced (handler memory m).2).toList ++ replies handler (handler memory m).1 rest

variable {handler : Handler ρ} {sending receiving : Nat}

theorem after_append (memory : ρ) (first second : List Message) :
    handler.after memory (first ++ second) = handler.after (handler.after memory first) second := List.foldl_append

theorem replies_append (memory : ρ) (first second : List Message) :
    handler.replies memory (first ++ second) =
      handler.replies memory first ++ handler.replies (handler.after memory first) second := by
  induction first generalizing memory with
  | nil => rfl
  | cons m rest ih =>
    rw [List.cons_append, replies, replies, ih, List.append_assoc]
    rfl

theorem Answers.length_replies (answers : handler.Answers sending receiving) (memory : ρ) (requests : List Message) :
    (handler.replies memory requests).length = requests.length := by
  induction requests generalizing memory with
  | nil => rfl
  | cons m rest ih =>
    obtain ⟨-, reply, placed, -⟩ := answers memory m
    rw [replies, placed, List.length_append, ih, Option.toList_some, List.length_singleton, List.length_cons, Nat.add_comm]

theorem Answers.replies_pass (answers : handler.Answers sending receiving) (memory : ρ) (requests : List Message) :
    ∀ reply ∈ handler.replies memory requests, reply.Passes sending receiving := by
  induction requests generalizing memory with
  | nil => exact fun reply => nofun
  | cons m rest ih =>
    intro reply member
    obtain ⟨-, own, placed, passes⟩ := answers memory m
    rw [replies, placed] at member
    obtain first | later := List.mem_append.mp member
    · rwa [List.mem_singleton.mp first]
    · exact ih _ reply later

theorem Answers.replyTo (answers : handler.Answers sending receiving) (memory : ρ) (m : Message) :
    ∃ reply, replyTo sending m (handler memory m).2 = .ok reply ∧ handler.replies memory [m] = [reply] ∧
      reply.Passes sending receiving := by
  obtain ⟨-, reply, placed, passes⟩ := answers memory m
  refine ⟨reply, ?_, ?_, passes⟩
  · rw [CallWire.replyTo, placed]
    simp only [passes.encoded]
    rfl
  · rw [replies, placed]
    rfl

end Handler
end CallWire
