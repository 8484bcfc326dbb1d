import CallWire.Channel.Session
import CallWire.Message.Lemmas
import CallWire.Proofs.FrameDecoding
import Mathlib.Data.List.Basic

/-! What serving comes to, told by frames instead of bytes and phases. Requests are answered one after another
until a frame holds none or a reply cannot be sent. -/

namespace CallWire

namespace HandlerAction

def leaves (slot : Option Message) : HandlerAction → Option Message
  | place reply => some reply
  | withdraw => none
  | shutdown => slot

/-- What a slot that was empty holds after all actions. -/
def lastPlaced (actions : List HandlerAction) : Option Message := actions.foldl leaves none

end HandlerAction

theorem Session.perform_slot (handle : ShutdownHandle) {actions : List HandlerAction}
    (obedient : .shutdown ∉ actions) (slot : ReplySlot) (host : Host) :
    perform handle actions slot host = (⟨actions.foldl HandlerAction.leaves slot.message⟩, host) := by
  induction actions generalizing slot with
  | nil => rfl
  | cons action rest ih =>
    have others : .shutdown ∉ rest := fun member => obedient (List.mem_cons_of_mem _ member)
    cases action with
    | place reply => exact ih others (slot.set reply)
    | withdraw => exact ih others slot.take.2
    | shutdown => exact absurd List.mem_cons_self obedient

def requestOf (frame : Bytes) : Except ChannelError Message :=
  match messageOfFrame frame with
  | .error error => .error error
  | .ok m => if m.isRequest then .ok m else .error (.unexpectedType .request .response)

/-- The reply to a request, if there is one and a frame within the limit can hold it. -/
def replyTo (limit : Nat) (request : Message) (actions : List HandlerAction) : Except ChannelError Message :=
  match HandlerAction.lastPlaced actions with
  | none => .error (.missingResponse request.callId)
  | some reply => (encodeMessage limit reply []).map fun _ => reply

/-- What a handler was asked and what it replied, what it remembers, and how serving ended. -/
structure Service (ρ : Type) where
  memory : ρ
  requests : List Message
  replies : List Message
  result : Except ChannelError Unit

/-- The service with this much done before. -/
def Service.after {ρ : Type} (requests replies : List Message) (service : Service ρ) : Service ρ :=
  { service with requests := requests ++ service.requests, replies := replies ++ service.replies }

def serveFrames {ρ : Type} (limit : Nat) (handler : Handler ρ) (ending : Except ChannelError Unit) :
    ρ → List Bytes → Service ρ
  | memory, [] => ⟨memory, [], [], ending⟩
  | memory, frame :: rest =>
    match requestOf frame with
    | .error error => ⟨memory, [], [], .error error⟩
    | .ok request =>
      let (memory, actions) := handler memory request
      match replyTo limit request actions with
      | .error error => ⟨memory, [request], [], .error error⟩
      | .ok reply => (serveFrames limit handler ending memory rest).after [request] [reply]

def Handler.after {ρ : Type} (handler : Handler ρ) (memory : ρ) (requests : List Message) : ρ :=
  requests.foldl (fun memory m => (handler memory m).1) memory

/-- Where serving stops: behind the last frame, at one that holds no request, or at a request without a reply. -/
inductive Service.Stops {ρ : Type} (limit : Nat) (handler : Handler ρ) (memory : ρ) (frames : List Bytes)
    (ending : Except ChannelError Unit) (service : Service ρ) : Prop
  | ended (answered : service.replies.length = service.requests.length)
      (all : service.requests.length = frames.length) (result : service.result = ending)
  | invalid {frame error} (answered : service.replies.length = service.requests.length)
      (next : frames[service.requests.length]? = some frame) (bad : requestOf frame = .error error)
      (result : service.result = .error error)
  | unanswered {earlier request error} (last : service.requests = earlier ++ [request])
      (answered : service.replies.length = earlier.length)
      (refused : replyTo limit request (handler (handler.after memory earlier) request).2 = .error error)
      (result : service.result = .error error)

/-- The requests are the frames from the first on, each handed up once, and to every one but the last the handler
replied; there is no longer run of such frames. -/
structure Service.Serves {ρ : Type} (limit : Nat) (handler : Handler ρ) (memory : ρ) (frames : List Bytes)
    (ending : Except ChannelError Unit) (service : Service ρ) : Prop where
  ordered : service.requests.map Message.bytes <+: frames
  valid : ∀ m ∈ service.requests, requestOf m.bytes = .ok m
  remembered : service.memory = handler.after memory service.requests
  replied : ∀ (i : Nat) reply, service.replies[i]? = some reply → ∃ request, service.requests[i]? = some request ∧
    replyTo limit request (handler (handler.after memory (service.requests.take i)) request).2 = .ok reply
  stops : service.Stops limit handler memory frames ending

theorem requestOf_bytes {frame : Bytes} {m : Message} (found : requestOf frame = .ok m) : m.bytes = frame := by
  unfold requestOf messageOfFrame at found
  cases parsed : Message.ofBytes frame with
  | error error => simp [parsed] at found
  | ok parsedMessage =>
    obtain rfl : parsedMessage = m := by
      simp only [parsed] at found
      cases valid : parsedMessage.validate with
      | error error => simp [valid] at found
      | ok _ =>
        simp only [valid] at found
        split at found
        · exact Except.ok.inj found
        · cases found
    exact Message.bytes_of_ofBytes parsed

theorem Service.Serves.after_one {ρ : Type} {limit : Nat} {handler : Handler ρ} {memory next : ρ} {request reply : Message}
    {actions : List HandlerAction} {rest : List Bytes} {ending : Except ChannelError Unit} {service : Service ρ}
    (serves : service.Serves limit handler next rest ending) (found : requestOf request.bytes = .ok request)
    (handled : handler memory request = (next, actions)) (fits : replyTo limit request actions = .ok reply) :
    (service.after [request] [reply]).Serves limit handler memory (request.bytes :: rest) ending := by
  have memories (requests : List Message) : handler.after memory (request :: requests) = handler.after next requests := by
    simp only [Handler.after, List.foldl_cons, handled]
  obtain ⟨ordered, valid, remembered, replied, stops⟩ := serves
  constructor
  · simpa [Service.after] using ordered
  · intro m member
    rcases List.mem_append.mp member with first | later
    · rwa [List.mem_singleton.mp first]
    · exact valid m later
  · exact remembered.trans (memories _).symm
  -- The reply in front is new, and the others have moved on by one with their requests.
  · intro i other placed
    cases i with
    | zero =>
      cases placed
      refine ⟨request, rfl, ?_⟩
      simpa [Handler.after, handled] using fits
    | succ i =>
      obtain ⟨m, asked, answer⟩ := replied i other placed
      refine ⟨m, asked, ?_⟩
      show replyTo limit m (handler (handler.after memory (request :: service.requests.take i)) m).2 = .ok other
      rwa [memories]
  · cases stops with
    | ended answered all result =>
      exact .ended (congrArg (· + 1) answered) (congrArg (· + 1) all) result
    | invalid answered follows bad result =>
      exact .invalid (congrArg (· + 1) answered) follows bad result
    | @unanswered earlier m error last answered refused result =>
      have longer : (service.after [request] [reply]).requests = (request :: earlier) ++ [m] :=
        congrArg (request :: ·) last
      rw [← memories] at refused
      exact .unanswered longer (congrArg (· + 1) answered) refused result

theorem serveFrames_serves {ρ : Type} (limit : Nat) (handler : Handler ρ) (ending : Except ChannelError Unit)
    (memory : ρ) (frames : List Bytes) :
    (serveFrames limit handler ending memory frames).Serves limit handler memory frames ending := by
  fun_induction serveFrames limit handler ending memory frames with
  | case1 memory => exact ⟨List.nil_prefix, by simp, rfl, by simp, .ended rfl rfl rfl⟩
  | case2 memory frame rest error bad => exact ⟨List.nil_prefix, by simp, rfl, by simp, .invalid rfl rfl bad rfl⟩
  | case3 memory frame rest request found after actions handled error refused =>
    obtain rfl := requestOf_bytes found
    refine ⟨by simp, by simpa using found, ?_, by simp, ?_⟩
    · simp only [Handler.after, List.foldl_cons, List.foldl_nil, handled]
    · refine .unanswered (List.nil_append _).symm rfl ?_ rfl
      simpa only [Handler.after, List.foldl_nil, handled] using refused
  | case4 memory frame rest request found after actions handled reply fits ih =>
    obtain rfl := requestOf_bytes found
    exact ih.after_one found handled fits

theorem requestOf_filterMap {requests : List Message} (valid : ∀ m ∈ requests, requestOf m.bytes = .ok m) :
    (requests.map Message.bytes).filterMap (fun frame => (requestOf frame).toOption) = requests := by
  have each : ∀ m ∈ requests, ((fun frame => (requestOf frame).toOption) ∘ Message.bytes) m = some m := by
    intro m member
    rw [Function.comp_apply, valid m member]
    rfl
  rw [List.filterMap_map, List.filterMap_congr each, List.filterMap_some]

/-- Where every frame holds a request that the handler replies to, none is left out. -/
theorem Service.Serves.answers_all {ρ : Type} {limit : Nat} {handler : Handler ρ} {memory : ρ} {requests : List Message}
    {ending : Except ChannelError Unit} {service : Service ρ}
    (serves : service.Serves limit handler memory (requests.map Message.bytes) ending)
    (valid : ∀ m ∈ requests, requestOf m.bytes = .ok m)
    (answers : ∀ memory, ∀ m ∈ requests, ∃ reply, replyTo limit m (handler memory m).2 = .ok reply) :
    service.requests = requests ∧ service.replies.length = requests.length ∧ service.result = ending := by
  obtain ⟨ordered, found, -, -, stops⟩ := serves
  have front : service.requests <+: requests := by
    have decoded := ordered.filterMap fun frame => (requestOf frame).toOption
    rwa [requestOf_filterMap found, requestOf_filterMap valid] at decoded
  cases stops with
  | ended answered all result =>
    have same := front.eq_of_length (all.trans (List.length_map ..))
    exact ⟨same, answered.trans (congrArg List.length same), result⟩
  | invalid _ next bad _ =>
    obtain ⟨m, member, rfl⟩ := List.mem_map.mp (List.mem_of_getElem? next)
    cases (valid m member).symm.trans bad
  | @unanswered earlier request _ last _ refused _ =>
    have member : request ∈ requests := front.subset (last ▸ List.mem_append_right earlier (List.mem_singleton_self request))
    obtain ⟨reply, answered⟩ := answers (handler.after memory earlier) request member
    cases answered.symm.trans refused

theorem Service.after_after {ρ : Type} (requests requests' replies replies' : List Message) (service : Service ρ) :
    (service.after requests' replies').after requests replies =
      service.after (requests ++ requests') (replies ++ replies') := by
  simp [after]

/-- The handler that also keeps the requests it is handed. -/
def Handler.recording {ρ : Type} (handler : Handler ρ) : Handler (ρ × List Message) := fun (memory, requests) m =>
  let (memory, actions) := handler memory m
  ((memory, requests ++ [m]), actions)

end CallWire
