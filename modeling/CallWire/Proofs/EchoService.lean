import CallWire.Cli.Exchange
import CallWire.Proofs.MessageStream
import CallWire.Proofs.QueuedMessages

/-! Serving with echoes. An echo is shorter than its request, so it always goes out; a peer gets one for each of the
requests that its bytes start with, and nothing for what comes after them. -/

namespace CallWire

/-- The requests in the first of some frames, up to a frame that holds none. -/
def leadingRequests : List Bytes → List Message
  | [] => []
  | frame :: rest =>
    match requestOf frame with
    | .error _ => []
    | .ok request => request :: leadingRequests rest

/-- How serving the frames ends if every request is answered. -/
def verdictOf (ending : Except ChannelError Unit) : List Bytes → Except ChannelError Unit
  | [] => ending
  | frame :: rest =>
    match requestOf frame with
    | .error error => .error error
    | .ok _ => verdictOf ending rest

/-- The bytes that come back from a stream: a frame with the echo of each request that it starts with. -/
def echoesOf (limit : Nat) (stream : Bytes) : Bytes :=
  streamOf ((leadingRequests (framesOf limit stream).1).map echoOf)

/-- How a session ends that serves the stream. -/
def sessionResult (limit : Nat) (stream : Bytes) : Except ChannelError Unit :=
  verdictOf (framesOf limit stream).2 (framesOf limit stream).1

/-- A request that a frame within the limit can bring. -/
structure Message.IsServable (m : Message) (limit : Nat) : Prop where
  valid : m.validate = .ok ()
  request : m.isRequest
  fits : m.length ≤ limit

/-- A stream starts with these requests, and with no more: the frame of another does not follow. -/
structure StartsWith (limit : Nat) (stream : Bytes) (requests : List Message) : Prop where
  servable : ∀ m ∈ requests, m.IsServable limit
  longest : ∃ rest, stream = streamOf requests ++ rest ∧ ∀ m : Message, m.IsServable limit → ¬ frameOf m.bytes <+: rest

theorem requestOf_eq_ok {frame : Bytes} {m : Message} :
    requestOf frame = .ok m ↔ m.bytes = frame ∧ m.validate = .ok () ∧ m.isRequest := by
  constructor
  · intro found
    unfold requestOf at found
    split at found
    · cases found
    · rename_i parsed
      split at found
      · rename_i request
        cases found
        unfold messageOfFrame at parsed
        split at parsed
        · cases parsed
        · rename_i held
          split at parsed
          · cases parsed
          · rename_i valid
            cases parsed
            exact ⟨Message.bytes_of_ofBytes held, valid, request⟩
      · cases found
  · rintro ⟨rfl, valid, request⟩
    simp only [requestOf, messageOfFrame, Message.ofBytes_bytes, valid, request, if_true]

theorem mem_framesOf {limit : Nat} {input frame : Bytes} (member : frame ∈ (framesOf limit input).1) :
    frame.length ≤ limit := by
  fun_induction framesOf limit input with
  | case1 | case2 => cases member
  | case3 input first rest decoded later ih =>
    obtain rfl | later := List.mem_cons.mp member
    · exact (decodeFrame_eq_some.mp decoded).2.2.1
    · exact ih later

theorem echoOf_length {m : Message} (request : m.isRequest) : (echoOf m).bytes.length + 12 = m.bytes.length := by
  obtain ⟨preamble, callId, body⟩ := m
  cases body with
  | request methodId objectId args =>
    simp [echoOf, Message.response, Message.args, Message.bytes, Body.bytes, Except.toOption]
    omega
  | response | unknown => cases request

theorem replyTo_echo {limit : Nat} {m : Message} (request : m.isRequest) (fits : m.length ≤ limit)
    (announced : limit ≤ maxFrameLength) (actions : List HandlerAction) (echo : actions = [.place (echoOf m)]) :
    replyTo limit m actions = .ok (echoOf m) := by
  have shorter := echoOf_length request
  unfold Message.length at fits
  have small : ¬ limit < (echoOf m).length := by
    unfold Message.length
    omega
  have sendable : (echoOf m).bytes.length ≤ maxFrameLength := by omega
  subst echo
  simp only [replyTo, HandlerAction.lastPlaced, List.foldl_cons, List.foldl_nil, HandlerAction.leaves, encodeMessage,
    if_neg small, encodeFrame, if_pos sendable]
  rfl

/-- Every request that is reached is echoed. -/
theorem serveFrames_echo {limit : Nat} (announced : limit ≤ maxFrameLength) (ending : Except ChannelError Unit)
    {frames : List Bytes} (fit : ∀ frame ∈ frames, frame.length ≤ limit) :
    serveFrames limit echoHandler ending () frames =
      ⟨(), leadingRequests frames, (leadingRequests frames).map echoOf, verdictOf ending frames⟩ := by
  induction frames with
  | nil => rfl
  | cons frame rest ih =>
    obtain ⟨fits, others⟩ := List.forall_mem_cons.mp fit
    unfold serveFrames leadingRequests verdictOf
    cases found : requestOf frame with
    | error error => rfl
    | ok m =>
      obtain ⟨rfl, -, request⟩ := requestOf_eq_ok.mp found
      simp only [echoHandler, replyTo_echo request fits announced _ rfl]
      rw [ih others]
      rfl

/-- Where a servable request comes next, it is the first frame. -/
theorem decodeFrame_servable {limit : Nat} (small : limit ≤ maxFrameLength) {m : Message} (servable : m.IsServable limit)
    (rest : Bytes) : decodeFrame limit (frameOf m.bytes ++ rest) = .ok (some (m.bytes, rest)) := by
  have passes : m.Passes limit limit :=
    ⟨servable.valid, servable.fits, servable.fits, Nat.le_trans servable.fits small⟩
  have first := passes.decoded []
  rw [show streamOf [m] = frameOf m.bytes from List.append_nil _] at first
  exact decodeFrame_append_some first rest

/-- A stream starts with no other requests. -/
theorem StartsWith.unique {limit : Nat} (small : limit ≤ maxFrameLength) {stream : Bytes} {requests : List Message}
    (starts : StartsWith limit stream requests) : leadingRequests (framesOf limit stream).1 = requests := by
  obtain ⟨servable, rest, rfl, last⟩ := starts
  induction requests with
  | nil =>
    show leadingRequests (framesOf limit rest).1 = []
    cases decoded : decodeFrame limit rest with
    | error error => rw [framesOf_error decoded, leadingRequests]
    | ok found =>
      rcases found with _ | ⟨frame, more⟩
      · rw [framesOf_none decoded, leadingRequests]
      · rw [framesOf_some decoded, leadingRequests]
        split
        · rfl
        · rename_i m request
          obtain ⟨rfl, valid, request⟩ := requestOf_eq_ok.mp request
          obtain ⟨split, -, fits, -⟩ := decodeFrame_eq_some.mp decoded
          exact absurd ⟨more, split.symm⟩ (last m ⟨valid, request, fits⟩)
  | cons m others ih =>
    obtain ⟨first, servable⟩ := List.forall_mem_cons.mp servable
    have decoded := decodeFrame_servable small first (streamOf others ++ rest)
    have found : requestOf m.bytes = .ok m := requestOf_eq_ok.mpr ⟨rfl, first.valid, first.request⟩
    rw [show streamOf (m :: others) ++ rest = frameOf m.bytes ++ (streamOf others ++ rest) from List.append_assoc ..,
      framesOf_some decoded]
    simp only [leadingRequests, found, ih servable]

end CallWire
