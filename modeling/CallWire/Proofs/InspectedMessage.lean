import CallWire.Proofs.ReportedFields
import CallWire.Proofs.WireAcceptance

/-! What inspecting makes of a text: the message that it is in hex, told by fields from which the message can be built
again, or one of two complaints. The text is no hex, or its bytes are no message of the kind that was asked for. -/

namespace CallWire

theorem HexText.unique {text : String} {bytes other : Bytes} (one : HexText text.toList bytes)
    (two : HexText text.toList other) : bytes = other :=
  Except.ok.inj ((readHex_eq_ok.mpr one).symm.trans (readHex_eq_ok.mpr two))

theorem Kind.decodeFrom_eq (k : Kind) (payload : Bytes) :
    k.decodeFrom payload = (k.tryDeserialize payload).map (·.1) := by
  rw [decodeFrom, tryDeserialize, Reading.outcome]
  cases k.reading (Cursor.start payload) with
  | ok value c => rfl
  | error error c => rfl

/-- The payload starts with a value of this kind. -/
def ArgumentKind.Starts (kind : ArgumentKind) (payload : Bytes) : Prop :=
  ∃ taken rest value, payload = taken ++ rest ∧ kind.kind.Spells taken value

theorem Argument.decodeFrom_iff {kind : ArgumentKind} {payload : Bytes} :
    (∃ a, decodeFrom kind payload = .ok a) ↔ kind.Starts payload := by
  rw [decodeFrom, Kind.decodeFrom_eq]
  constructor
  · rintro ⟨a, decoded⟩
    cases read : kind.kind.tryDeserialize payload with
    | error error =>
      rw [read] at decoded
      cases decoded
    | ok found =>
      obtain ⟨inside, spelled⟩ := Kind.tryDeserialize_eq_ok.mp read
      exact ⟨_, _, found.1, (List.take_append_drop found.2 payload).symm, spelled⟩
  · rintro ⟨taken, rest, value, rfl, spelled⟩
    have read : kind.kind.tryDeserialize (taken ++ rest) = .ok (value, taken.length) := by
      apply Kind.tryDeserialize_eq_ok.mpr
      rw [List.take_left, List.length_append]
      exact ⟨Nat.le_add_right _ _, spelled⟩
    rw [read]
    exact ⟨_, rfl⟩

namespace Message

/-- Where the payload of a message with these bytes starts, and the fewest bytes that it has. -/
def payloadOffset (content : Bytes) : Nat := if content[1]? = some 1 then 16 else 4

/-- What makes bytes no message with a payload of the kind that was asked for. -/
inductive Unfit (content : Bytes) (decode : Option ArgumentKind) : Prop
  | short (few : content.length < payloadOffset content)
  | preamble (other : content[0]? ≠ some 0x43)
  | type (noRequest : content[1]? ≠ some 1) (noResponse : content[1]? ≠ some 2)
  | payload {kind} (asked : decode = some kind) (other : ¬ kind.Starts (content.drop (payloadOffset content)))

theorem not_unfit_iff {content : Bytes} {decode : Option ArgumentKind} :
    ¬ Unfit content decode ↔
      ValidForm content ∧ ∀ kind, decode = some kind → kind.Starts (content.drop (payloadOffset content)) := by
  constructor
  · intro fit
    have long : payloadOffset content ≤ content.length := Nat.le_of_not_lt fun few => fit (.short few)
    have preamble : content[0]? = some 0x43 := Decidable.of_not_not fun other => fit (.preamble other)
    refine ⟨⟨preamble, ?_⟩, ?_⟩
    · by_cases request : content[1]? = some 1
      · exact .inl ⟨request, by simpa [payloadOffset, request] using long⟩
      · have response : content[1]? = some 2 := Decidable.of_not_not fun other => fit (.type request other)
        exact .inr ⟨response, by simpa [payloadOffset, response] using long⟩
    · intro kind asked
      by_contra other
      exact fit (.payload asked other)
  · rintro ⟨⟨preamble, form⟩, starts⟩ unfit
    cases unfit with
    | short few =>
      rcases form with ⟨second, long⟩ | ⟨second, long⟩
      · simp [payloadOffset, second] at few
        omega
      · simp [payloadOffset, second] at few
        omega
    | preamble other => exact other preamble
    | type noRequest noResponse => exact form.elim (fun form => noRequest form.1) fun form => noResponse form.1
    | payload asked other => exact other (starts _ asked)

theorem ofValidBytes_eq_ok {content : Bytes} {m : Message} :
    ofValidBytes content = .ok m ↔ ofBytes content = .ok m ∧ m.validate = .ok () := by
  unfold ofValidBytes
  cases parsed : ofBytes content with
  | error error => exact ⟨fun failed => (nomatch failed), fun failed => (nomatch failed.1)⟩
  | ok found =>
    show (found.validate.map fun _ => found) = .ok m ↔ _
    cases checked : found.validate with
    | error error =>
      refine ⟨fun failed => (nomatch failed), ?_⟩
      rintro ⟨same, valid⟩
      cases same
      cases checked.symm.trans valid
    | ok _ =>
      constructor
      · intro same
        cases same
        exact ⟨rfl, checked⟩
      · exact And.left

theorem payload_of_validate {m : Message} (valid : m.validate = .ok ()) :
    m.payload = .ok (m.bytes.drop (payloadOffset m.bytes)) := by
  rcases eq_request_or_response valid with ⟨callId, methodId, objectId, args, rfl⟩ | ⟨callId, value, rfl⟩
  · rfl
  · rfl

end Message

/-! ### The three outcomes -/

/-- How inspecting ends, with what is known of the text then. -/
inductive Inspection (text : String) (decode : Option ArgumentKind) : Except Failure Summary → Prop
  | garbled {failure} (status : failure.status = 64) (noHex : ¬ ∃ bytes, HexText text.toList bytes) :
      Inspection text decode (.error failure)
  | unfit {failure bytes} (status : failure.status = 60) (hex : HexText text.toList bytes)
      (unfit : Message.Unfit bytes decode) : Inspection text decode (.error failure)
  | told {s m} (hex : HexText text.toList m.bytes) (fit : ¬ Message.Unfit m.bytes decode)
      (tells : s.Tells m decode.isSome) : Inspection text decode (.ok s)

section
variable {text : String} {decode : Option ArgumentKind}

theorem inspectHex_of_valid {m : Message} (read : readHex text = .ok m.bytes) (valid : m.validate = .ok ()) :
    Inspection text decode (inspectHex text decode) := by
  have hex := readHex_eq_ok.mp read
  have form : Message.ValidForm m.bytes := (Message.accepted_iff_validForm _).mp ⟨m, Message.ofBytes_bytes m, valid⟩
  have parsed : Message.ofValidBytes m.bytes = .ok m := Message.ofValidBytes_eq_ok.mpr ⟨Message.ofBytes_bytes m, valid⟩
  rw [inspectHex, read]
  simp only [Except.mapError, bind, Except.bind, parsed, Message.payload_of_validate valid]
  cases decode with
  | none =>
    obtain ⟨s, told, tells⟩ := Summary.ofMessage_tells valid none
    simp only [pure, Except.pure, told]
    exact .told hex (Message.not_unfit_iff.mpr ⟨form, nofun⟩) tells
  | some kind =>
    cases decoded : Argument.decodeFrom kind (m.bytes.drop (Message.payloadOffset m.bytes)) with
    | error error =>
      simp only [decoded]
      refine .unfit rfl hex (.payload rfl ?_)
      intro starts
      obtain ⟨a, decoded'⟩ := Argument.decodeFrom_iff.mpr starts
      cases decoded.symm.trans decoded'
    | ok a =>
      obtain ⟨s, told, tells⟩ := Summary.ofMessage_tells valid (some a)
      simp only [decoded, pure, Except.pure, told]
      refine .told hex (Message.not_unfit_iff.mpr ⟨form, ?_⟩) tells
      intro other asked
      cases asked
      exact Argument.decodeFrom_iff.mp ⟨a, decoded⟩

theorem inspectHex_of_invalid {bytes : Bytes} (read : readHex text = .ok bytes) {error : MessageError}
    (invalid : Message.ofValidBytes bytes = .error error) :
    Inspection text decode (inspectHex text decode) := by
  rw [inspectHex, read]
  simp only [Except.mapError, bind, Except.bind, invalid]
  refine .unfit rfl (readHex_eq_ok.mp read) ?_
  by_contra fit
  obtain ⟨m, parsed, valid⟩ := (Message.accepted_iff_validForm bytes).mpr (Message.not_unfit_iff.mp fit).1
  cases invalid.symm.trans (Message.ofValidBytes_eq_ok.mpr ⟨parsed, valid⟩)

end

theorem inspectHex_inspection (text : String) (decode : Option ArgumentKind) :
    Inspection text decode (inspectHex text decode) := by
  cases read : readHex text with
  | error error =>
    rw [inspectHex, read]
    refine .garbled rfl ?_
    rintro ⟨bytes, hex⟩
    cases read.symm.trans (readHex_eq_ok.mpr hex)
  | ok bytes =>
    cases parsed : Message.ofValidBytes bytes with
    | error error => exact inspectHex_of_invalid read parsed
    | ok m =>
      obtain ⟨own, valid⟩ := Message.ofValidBytes_eq_ok.mp parsed
      rw [← Message.bytes_of_ofBytes own] at read
      exact inspectHex_of_valid read valid

/-! ### The command -/

def decodeArguments : Option ArgumentKind → List String
  | none => []
  | some kind => ["--decode", kind.name]

/-- A command line that asks for the inspection of a text, whatever it starts with. -/
def inspectArguments (text : String) (decode : Option ArgumentKind) : List String :=
  "inspect" :: decodeArguments decode ++ ["--", text]

theorem Cli.readArguments_inspect (text : String) (decode : Option ArgumentKind) :
    readArguments (inspectArguments text decode) = .ok ⟨none, .inspect text decode⟩ := by
  have operand : inspectLevel.read none ["--", text] { kind := decode } =
      .ok ({ kind := decode, operand := some text }, none) := by
    have taken : inspectLevel.operand text { kind := decode } = .ok { kind := decode, operand := some text } := by
      simp [inspectLevel, oneOperand]
    have read : inspectLevel.read none ["--", text] { kind := decode } =
        (((inspectLevel.operand text { kind := decode }).bind .ok).map fun draft => (draft, none)).mapError .misuse := rfl
    rw [read, taken]
    rfl
  have level : inspectLevel.read none (decodeArguments decode ++ ["--", text]) {} =
      .ok ({ kind := decode, operand := some text }, none) := by
    cases decode with
    | none => exact operand
    | some kind =>
      have named : inspectLevel.read none (decodeArguments (some kind) ++ ["--", text]) {} =
          inspectLevel.read none ["--", text] { kind := some kind } := by
        cases kind with
        | scalar s => cases s <;> rfl
        | bool => rfl
        | text => rfl
      exact named.trans operand
  have root : rootLevel.read none (inspectArguments text decode) {} =
      .ok ({}, some ("inspect", decodeArguments decode ++ ["--", text])) := rfl
  have own : levelOf "inspect" = inspectLevel := rfl
  rw [readArguments, root]
  simp only [own, level]
  rfl

/-- The status tells hex from other texts, and messages from other bytes. All of a message is in its summary, which is
given whenever no kind was asked for, and in what is printed of it. -/
theorem Message.inspects (text : String) (decode : Option ArgumentKind) :
    Cli.readArguments (inspectArguments text decode) = .ok ⟨none, .inspect text decode⟩ ∧
      ∀ arguments format host, Cli.readArguments arguments = .ok ⟨format, .inspect text decode⟩ →
        ∃ output, Running.start arguments host = (.ended output, host) ∧
          (output.status = 64 ↔ ¬ ∃ bytes, HexText text.toList bytes) ∧
          (∀ bytes, HexText text.toList bytes →
            (output.status = 60 ↔ Unfit bytes decode) ∧ (output.status = 0 ↔ ¬ Unfit bytes decode)) ∧
          ∀ m, m.validate = .ok () → HexText text.toList m.bytes →
            (decode = none → output.status = 0) ∧
            (output.status = 0 → ∃ s, inspectHex text decode = .ok s ∧ s.message? = some m ∧
              s.value.isSome = decode.isSome ∧ output.stdout = s.display (format.getD .json) ∧
              s.Shows m (format.getD .json) output.stdout) := by
  refine ⟨Cli.readArguments_inspect text decode, ?_⟩
  intro arguments format host read
  have started : Running.start arguments host = (.ended (.ofSummary format (inspectHex text decode)), host) := by
    rw [Running.start, read]
  refine ⟨_, started, ?_⟩
  have inspection := inspectHex_inspection text decode
  generalize inspectHex text decode = result at inspection
  -- The outcomes exclude each other, since a text is the hex of one byte string at most.
  cases inspection with
  | @garbled failure status noHex =>
    have ended : (Output.ofSummary format (.error failure)).status = 64 := status
    rw [ended]
    refine ⟨⟨fun _ => noHex, fun _ => rfl⟩, ?_, ?_⟩
    · exact fun bytes hex => absurd ⟨bytes, hex⟩ noHex
    · exact fun m _ hex => absurd ⟨_, hex⟩ noHex
  | @unfit failure content status hex unfit =>
    have ended : (Output.ofSummary format (.error failure)).status = 60 := status
    rw [ended]
    refine ⟨⟨fun other => (nomatch other), fun noHex => absurd ⟨_, hex⟩ noHex⟩, ?_, ?_⟩
    · intro bytes own
      obtain rfl := own.unique hex
      exact ⟨⟨fun _ => unfit, fun _ => rfl⟩, ⟨fun other => (nomatch other), fun fit => absurd unfit fit⟩⟩
    · intro m valid own
      obtain rfl := own.unique hex
      refine ⟨?_, fun other => (nomatch other)⟩
      rintro rfl
      have form := (accepted_iff_validForm _).mp ⟨m, ofBytes_bytes m, valid⟩
      exact absurd unfit (not_unfit_iff.mpr ⟨form, nofun⟩)
  | @told s own hex fit tells =>
    have ended : (Output.ofSummary format (.ok s)).status = 0 := rfl
    rw [ended]
    refine ⟨⟨fun other => (nomatch other), fun noHex => absurd ⟨_, hex⟩ noHex⟩, ?_, ?_⟩
    · intro bytes other
      obtain rfl := other.unique hex
      exact ⟨⟨fun other => (nomatch other), fun unfit => absurd unfit fit⟩, ⟨fun _ => fit, fun _ => rfl⟩⟩
    · intro m valid other
      have same : own = m := by
        have parsed := ofBytes_bytes own
        rw [← other.unique hex, ofBytes_bytes] at parsed
        exact (Except.ok.inj parsed).symm
      subst same
      exact ⟨fun _ => rfl, fun _ => ⟨s, rfl, tells.fields, tells.value, rfl, tells.shown _⟩⟩

/-- A response in hex of either case, cut up even between the digits of a byte, with blanks around it. -/
theorem Message.inspects_response :
    let text := "\n 0X43 02:0 7_0:02A\t "
    let m := response 7 [0x2a]
    let decode := some (.scalar .u8)
    m.validate = .ok () ∧ HexText text.toList m.bytes ∧
      ∃ output, Running.start (inspectArguments text decode) {} = (.ended output, {}) ∧ output.status = 0 ∧
        Message.ofJsonReport? output.stdout = some m := by
  intro text m decode
  have valid : m.validate = .ok () := rfl
  have body : HexBody ['4', '3', ' ', '0', '2', ':', '0', ' ', '7', '_', '0', ':', '0', '2', 'A'] (Hex.halves m.bytes) :=
    .digit (by decide) <| .digit (by decide) <| .separator (by decide) <| .digit (by decide) <| .digit (by decide) <|
      .separator (by decide) <| .digit (by decide) <| .separator (by decide) <| .digit (by decide) <|
      .separator (by decide) <| .digit (by decide) <| .separator (by decide) <| .digit (by decide) <|
      .digit (by decide) <| .digit (by decide) .nil
  have hex : HexText text.toList m.bytes :=
    ⟨['\n', ' '], ['0', 'X'], _, ['\t', ' '], by decide, List.all_eq_true.mp rfl, .tail _ (.tail _ (.head _)), body⟩
  have fit : ¬ Unfit m.bytes decode := by
    refine not_unfit_iff.mpr ⟨⟨rfl, .inr ⟨rfl, by decide⟩⟩, ?_⟩
    intro kind asked
    obtain rfl := Option.some.inj asked
    exact ⟨[0x2a], [], 42, rfl, rfl⟩
  obtain ⟨read, inspected⟩ := inspects text decode
  obtain ⟨output, started, -, others, messages⟩ := inspected _ _ {} read
  have accepted := (others _ hex).2.mpr fit
  obtain ⟨s, -, -, -, -, shown⟩ := (messages m valid hex).2 accepted
  exact ⟨valid, hex, output, started, accepted, shown⟩

end CallWire
