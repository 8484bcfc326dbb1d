import CallWire.Cli.Program
import CallWire.Proofs.EchoService
import CallWire.Proofs.RequestArguments

/-! The arguments of a call and what comes back of them. The request carries their encodings one after the other, the echo
brings the same bytes, and they are read by the kind that was asked for; the first of them reads back as it was. -/

namespace CallWire

namespace Argument

def encoding (a : Argument) : Bytes := a.kind.kind.encoding a.value

def typed (a : Argument) : TypedValue := ⟨a.kind.kind, a.value⟩

/-- The length of a text can be announced. -/
def IsShort (a : Argument) : Prop := ∀ text, a = ⟨.text, text⟩ → (Bytes.ofText text).length < 2 ^ 32

theorem IsShort.passable {a : Argument} (short : a.IsShort) : a.typed.IsPassable := by
  obtain ⟨kind, value⟩ := a
  cases kind with
  | scalar s => exact ⟨trivial, trivial⟩
  | bool => exact ⟨trivial, trivial⟩
  | text => exact ⟨trivial, short value rfl⟩

theorem toBytes_encodable {a : Argument} (short : a.IsShort) : a.encodable.toBytes = .ok a.encoding :=
  Kind.toBytes_ofValue short.passable.small

/-- A value reads back, whatever follows it. -/
theorem decodeFrom_encoding {a : Argument} (short : a.IsShort) (rest : Bytes) :
    decodeFrom a.kind (a.encoding ++ rest) = .ok a := by
  have taken := Kind.reading_takes (Kind.spells_encoding short.passable.valid short.passable.small) 0 rest
  have read : a.kind.kind.decodeFrom (a.encoding ++ rest) = .ok a.value := by
    rw [Kind.decodeFrom, Reading.outcome, Cursor.start]
    simp only [encoding, typed] at taken ⊢
    rw [taken]
  rw [decodeFrom, read]
  rfl

end Argument

namespace CallOptions
variable {o : CallOptions}

/-- The arguments as they travel. -/
def payload (o : CallOptions) : Bytes := o.args.flatMap Argument.encoding

def asked (o : CallOptions) : Message := Message.request o.callId o.method o.object o.payload

theorem request_eq (short : ∀ a ∈ o.args, a.IsShort) : o.request = .ok o.asked := by
  have passable : ∀ a ∈ o.args.map Argument.typed, a.IsPassable := by
    intro a member
    obtain ⟨own, present, rfl⟩ := List.mem_map.mp member
    exact (short own present).passable
  have regions : (o.args.map Argument.typed).flatMap (fun a => a.encodable.region) = o.payload := by
    simp only [TypedValue.region_encodable, List.flatMap_map]
    rfl
  have built := RequestBuilder.foldl_arg_of_fits (b := .start o.callId o.method o.object) rfl (TypedValue.fits_map passable)
  rw [List.map_map, List.foldl_map] at built
  rw [← List.map_map, List.flatMap_map, regions] at built
  rw [request]
  refine (congrArg RequestBuilder.build built).trans ?_
  rfl

/-- What is told of the arguments that came back: their bytes, and the value of the kind that was asked for. -/
def echoed (o : CallOptions) : Except Failure Summary :=
  match o.returns with
  | none => .ok ⟨"response", o.callId, none, none, o.payload.length, Hex.encode o.payload, none, o.payload⟩
  | some kind =>
    match Argument.decodeFrom kind o.payload with
    | .ok value =>
      .ok ⟨"response", o.callId, none, none, o.payload.length, Hex.encode o.payload, some value.json, o.payload⟩
    | .error error => .error (.undecodable "return value" kind error)

theorem report_echo (o : CallOptions) : o.report (Message.response o.callId o.payload) = o.echoed := by
  unfold report echoed
  cases o.returns with
  | none => rfl
  | some kind =>
    have returned : (Message.response o.callId o.payload).returnValue = .ok o.payload := rfl
    simp only [decodeReturn, returned]
    cases Argument.decodeFrom kind o.payload with
    | ok value => rfl
    | error error => rfl

/-- A call fails only if the bytes are none of the kind that was asked for. -/
theorem status_echoed (o : CallOptions) (format : Option OutputFormat) :
    (Output.ofSummary format o.echoed).status =
      match o.returns with
      | none => successStatus
      | some kind =>
        match Argument.decodeFrom kind o.payload with
        | .ok _ => successStatus
        | .error _ => dataInvalidStatus := by
  unfold echoed
  cases o.returns with
  | none => rfl
  | some kind =>
    dsimp only
    cases Argument.decodeFrom kind o.payload with
    | ok value => rfl
    | error error => rfl

end CallOptions
end CallWire
