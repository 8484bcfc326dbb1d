import CallWire.Cli.Program
import CallWire.Proofs.ArgumentText
import CallWire.Proofs.MessageForms
import CallWire.Proofs.WireGrammar

/-! Reading back what was told about a message. A member of a JSON object is found by its name behind the members that
stand before it, and a text is taken out of its quotation marks and escapes; a message is built again from its type,
its ids and the hex of its payload. -/

namespace CallWire

/-! ### Members of a JSON object -/

/-- What a member holds: a text, or a natural number. -/
inductive JsonDatum
  | text (content : String)
  | number (n : Nat)

namespace JsonDatum

def write : JsonDatum → String
  | text content => jsonString content
  | number n => toString n

def text? : JsonDatum → Option String
  | text content => some content
  | number _ => none

def below? (limit : Nat) : JsonDatum → Option Nat
  | text _ => none
  | number n => if n < limit then some n else none

end JsonDatum

/-- The character that a letter stands for behind a backslash. -/
def unescape? : Char → Option Char
  | '"' => some '"'
  | '\\' => some '\\'
  | 'b' => some '\x08'
  | 'f' => some '\x0c'
  | 'n' => some '\n'
  | 'r' => some '\r'
  | 't' => some '\t'
  | _ => none

/-- What a text stands for whose opening quotation mark was read, and what follows its closing one. -/
def readQuoted : List Char → Option (List Char × List Char)
  | '"' :: rest => some ([], rest)
  | '\\' :: 'u' :: '0' :: '0' :: high :: low :: rest => do
    let h ← digitValue? 16 high
    let l ← digitValue? 16 low
    let (content, rest) ← readQuoted rest
    return (Char.ofNat (16 * h + l) :: content, rest)
  | '\\' :: letter :: rest => do
    let own ← unescape? letter
    let (content, rest) ← readQuoted rest
    return (own :: content, rest)
  | c :: rest => (readQuoted rest).map fun (content, rest) => (c :: content, rest)
  | [] => none

def readDatum : List Char → Option (JsonDatum × List Char)
  | '"' :: rest => (readQuoted rest).map fun (content, rest) => (.text (String.ofList content), rest)
  | chars =>
    match chars.takeWhile Char.isDigit with
    | [] => none
    | digits => some (.number (Nat.ofDigitChars 10 digits 0), chars.dropWhile Char.isDigit)

/-- What the member of this name holds, of members that stand one behind the other. -/
def findMember (name : String) (chars : List Char) : Option JsonDatum :=
  match readDatum chars with
  | some (.text key, ':' :: rest) =>
    match readDatum rest with
    | some (datum, rest) =>
      if key = name then some datum
      else
        match rest with
        | ',' :: others => if others.length < chars.length then findMember name others else none
        | _ => none
    | none => none
  | _ => none
termination_by chars.length

theorem digitValue?_digitChar {n : Nat} (small : n < 16) : digitValue? 16 (digitChar n) = some n := by
  have each : ∀ n < 16, digitValue? 16 (digitChar n) = some n := by decide
  exact each n small

theorem readQuoted_plain {c : Char} (quote : c ≠ '"') (backslash : c ≠ '\\') (chars : List Char) :
    readQuoted (c :: chars) = (readQuoted chars).map fun (content, rest) => (c :: content, rest) := by
  rw [readQuoted.eq_def]
  split
  · exact absurd (List.cons.inj ‹_›).1 quote
  · exact absurd (List.cons.inj ‹_›).1 backslash
  · exact absurd (List.cons.inj ‹_›).1 backslash
  · rename_i same
    cases same
    rfl
  · exact absurd ‹_› (List.cons_ne_nil _ _)

theorem readQuoted_jsonEscape (c : Char) {chars content rest : List Char}
    (read : readQuoted chars = some (content, rest)) :
    readQuoted ((jsonEscape c).toList ++ chars) = some (c :: content, rest) := by
  unfold jsonEscape
  split
  · simp [readQuoted, read, unescape?]
  · simp [readQuoted, read, unescape?]
  · simp [readQuoted, read, unescape?]
  · simp [readQuoted, read, unescape?]
  · simp [readQuoted, read, unescape?]
  · simp [readQuoted, read, unescape?]
  · simp [readQuoted, read, unescape?]
  · rename_i quote backslash _ _ _ _ _
    split
    · rename_i small
      have high : c.toNat / 16 < 16 := by omega
      have value : 16 * (c.toNat / 16) + c.toNat % 16 = c.toNat := Nat.div_add_mod _ _
      simp [readQuoted, read, digitValue?_digitChar high, digitValue?_digitChar (Nat.mod_lt _ _), value]
    · have plain := readQuoted_plain quote backslash chars
      simpa [read] using plain

/-- What follows a member cannot be taken for a digit of it. -/
def Delimited (rest : List Char) : Prop := ∀ c ∈ rest.head?, ¬ c.isDigit

theorem readDatum_jsonString (content : String) (rest : List Char) :
    readDatum ((jsonString content).toList ++ rest) = some (.text content, rest) := by
  have quoted : ∀ chars : List Char,
      readQuoted (chars.flatMap (fun c => (jsonEscape c).toList) ++ '"' :: rest) = some (chars, rest) := by
    intro chars
    induction chars with
    | nil => rfl
    | cons c chars ih =>
      rw [List.flatMap_cons, List.append_assoc]
      exact readQuoted_jsonEscape c ih
  have written : (jsonString content).toList ++ rest =
      '"' :: (content.toList.flatMap (fun c => (jsonEscape c).toList) ++ '"' :: rest) := by
    simp [jsonString, String.toList_join, List.flatMap_def, Function.comp_def]
  rw [written, readDatum, quoted]
  simp

theorem readDatum_toString (n : Nat) {rest : List Char} (delimited : Delimited rest) :
    readDatum ((toString n).toList ++ rest) = some (.number n, rest) := by
  rw [toList_toString]
  have digits : ∀ c ∈ Nat.toDigits 10 n, c.isDigit := fun _ => Nat.isDigit_of_mem_toDigits (by decide) (by decide)
  have taken : (Nat.toDigits 10 n ++ rest).takeWhile Char.isDigit = Nat.toDigits 10 n := by
    rw [List.takeWhile_append_of_pos digits]
    cases rest with
    | nil => simp
    | cons c rest => simp [delimited c rfl]
  have left : (Nat.toDigits 10 n ++ rest).dropWhile Char.isDigit = rest := by
    rw [List.dropWhile_append_of_pos digits]
    cases rest with
    | nil => rfl
    | cons c rest => simp [delimited c rfl]
  rw [readDatum.eq_def]
  split
  · rename_i opened
    cases spelled : Nat.toDigits 10 n with
    | nil => exact absurd spelled Nat.toDigits_ne_nil
    | cons c others =>
      rw [spelled] at opened digits
      cases opened
      cases digits _ (.head _)
  · rw [taken, left]
    cases spelled : Nat.toDigits 10 n with
    | nil => exact absurd spelled Nat.toDigits_ne_nil
    | cons c others => simp only [← spelled, Nat.ofDigitChars_ten_toDigits]

theorem readDatum_write (datum : JsonDatum) {rest : List Char} (delimited : Delimited rest) :
    readDatum (datum.write.toList ++ rest) = some (datum, rest) := by
  cases datum with
  | text content => exact readDatum_jsonString content rest
  | number n => exact readDatum_toString n delimited

theorem findMember_first (name : String) (datum : JsonDatum) {rest : List Char} (delimited : Delimited rest) :
    findMember name ((jsonString name).toList ++ ':' :: (datum.write.toList ++ rest)) = some datum := by
  rw [findMember, readDatum_jsonString]
  simp only [readDatum_write datum delimited, if_true]

theorem findMember_later {name key : String} (other : key ≠ name) (datum : JsonDatum) (others : List Char) :
    findMember name ((jsonString key).toList ++ ':' :: (datum.write.toList ++ ',' :: others)) =
      findMember name others := by
  have delimited : Delimited (',' :: others) := by simp [Delimited]
  rw [findMember, readDatum_jsonString]
  simp only [readDatum_write datum delimited, if_neg other]
  apply if_pos
  simp only [List.length_append, List.length_cons]
  omega

/-- The members of an object, up to its end. -/
def memberChars (members : List (String × String)) : List Char := (jsonObject members).toList.tail

theorem memberChars_singleton (key value : String) :
    memberChars [(key, value)] = (jsonString key).toList ++ ':' :: (value.toList ++ ['\x7d']) := by
  simp [memberChars, jsonObject]

theorem memberChars_cons {members : List (String × String)} (some : members ≠ []) (key value : String) :
    memberChars ((key, value) :: members) =
      (jsonString key).toList ++ ':' :: (value.toList ++ ',' :: memberChars members) := by
  obtain ⟨next, others, rfl⟩ := List.exists_cons_of_ne_nil some
  simp [memberChars, jsonObject, String.toList_intercalate]

theorem findMember_of_lookup {name : String} {datum : JsonDatum} {data : List (String × JsonDatum)}
    (found : data.lookup name = some datum) (after : List (String × String)) (rest : List Char) :
    findMember name (memberChars (data.map (fun (key, own) => (key, own.write)) ++ after) ++ rest) = some datum := by
  induction data with
  | nil => cases found
  | cons first others ih =>
    obtain ⟨key, own⟩ := first
    rw [List.map_cons, List.cons_append]
    by_cases same : key = name
    · subst same
      rw [List.lookup_cons_self] at found
      cases found
      by_cases last : others.map (fun (key, own) => (key, own.write)) ++ after = []
      · rw [last, memberChars_singleton]
        simp only [List.append_assoc, List.cons_append]
        exact findMember_first _ _ (by simp [Delimited])
      · rw [memberChars_cons last]
        simp only [List.append_assoc, List.cons_append]
        exact findMember_first _ _ (by simp [Delimited])
    · have later : others.lookup name = some datum := by
        rwa [List.lookup_cons, beq_false_of_ne (Ne.symm same)] at found
      have more : others.map (fun (key, own) => (key, own.write)) ++ after ≠ [] := by
        rintro none
        rw [List.map_eq_nil_iff.mp (List.append_eq_nil_iff.mp none).1] at later
        cases later
      rw [memberChars_cons more, List.append_assoc, List.cons_append, List.append_assoc, List.cons_append,
        findMember_later same]
      exact ih later

/-! ### Parts of printed texts -/

theorem mem_intersperse {α : Type} {a separator : α} {items : List α} (member : a ∈ items) :
    a ∈ items.intersperse separator := by
  induction items with
  | nil => exact member
  | cons first others ih =>
    cases others with
    | nil => exact member
    | cons second others =>
      rw [List.intersperse_cons_cons]
      rcases List.mem_cons.mp member with rfl | later
      · exact .head _
      · exact .tail _ (.tail _ (ih later))

theorem infix_intercalate {separator text : String} {texts : List String} (member : text ∈ texts) :
    text.toList <:+: (separator.intercalate texts).toList := by
  rw [String.toList_intercalate, List.intercalate]
  obtain ⟨before, after, pieces⟩ := List.append_of_mem
    (mem_intersperse (List.mem_map_of_mem member) : text.toList ∈ (texts.map String.toList).intersperse separator.toList)
  exact ⟨before.flatten, after.flatten, by simp [pieces]⟩

theorem infix_tableRow (first second : Nat) (row : String × String) :
    row.1.toList <:+: (tableRow first second row).toList ∧ row.2.toList <:+: (tableRow first second row).toList := by
  constructor
  · refine ⟨['│', ' '], List.replicate (first - columns row.1) ' ' ++ ' ' :: '┆' :: (padded second row.2).toList ++ ['│'], ?_⟩
    simp [tableRow, padded]
  · refine ⟨'│' :: (padded first row.1).toList ++ ['┆', ' '], List.replicate (second - columns row.2) ' ' ++ [' ', '│'], ?_⟩
    simp [tableRow, padded]

theorem infix_tableText (header : String × String) {rows : List (String × String)} {row : String × String}
    (member : row ∈ rows) :
    row.1.toList <:+: (tableText header rows).toList ∧ row.2.toList <:+: (tableText header rows).toList := by
  let first := widest (header.1 :: rows.map (·.1))
  let second := widest (header.2 :: rows.map (·.2))
  have line : (tableRow first second row).toList <:+: (tableText header rows).toList := by
    refine infix_intercalate (List.mem_append_left _ (List.mem_append_right _ (mem_intersperse ?_)))
    exact List.mem_map_of_mem member
  exact ⟨(infix_tableRow first second row).1.trans line, (infix_tableRow first second row).2.trans line⟩

theorem Bytes.ofText_infix {text whole : String} (inside : text.toList <:+: whole.toList) :
    ofText text <:+: ofText whole := by
  have encoded (chars : List Char) : ofText (String.ofList chars) = chars.flatMap String.utf8EncodeChar := by
    simp [ofText, List.utf8Encode]
  obtain ⟨before, after, joined⟩ := inside
  rw [← String.ofList_toList (s := text), ← String.ofList_toList (s := whole), encoded, encoded, ← joined,
    List.flatMap_append, List.flatMap_append]
  exact List.infix_append _ _ _

/-! ### Messages from reports -/

namespace Message

/-- The message that reported fields tell of, if they fit together. -/
def ofReport? (typeName : String) (callId : UInt16) (methodId : Option UInt32) (objectId : Option UInt64)
    (payloadHex : String) : Option Message :=
  match typeName, methodId, objectId, Hex.decode payloadHex with
  | "request", some method, some object, .ok payload => some (request callId method object payload)
  | "response", none, none, .ok payload => some (response callId payload)
  | _, _, _, _ => none

/-- The message that the members of a report tell of. The ids of method and object are looked for in a request only. -/
def ofMembers? (members : List Char) : Option Message := do
  let typeName ← (findMember "type" members).bind JsonDatum.text?
  let callId ← (findMember "call_id" members).bind (JsonDatum.below? (2 ^ 16))
  let payloadHex ← (findMember "payload_hex" members).bind JsonDatum.text?
  if typeName = "request" then
    let methodId ← (findMember "method_id" members).bind (JsonDatum.below? (2 ^ 32))
    let objectId ← (findMember "object_id" members).bind (JsonDatum.below? (2 ^ 64))
    ofReport? typeName (UInt16.ofNat callId) (some (UInt32.ofNat methodId)) (some (UInt64.ofNat objectId)) payloadHex
  else
    ofReport? typeName (UInt16.ofNat callId) none none payloadHex

/-- The message that a report in JSON tells of. -/
def ofJsonReport? (report : Bytes) : Option Message :=
  (Bytes.toText? report).bind fun text => ofMembers? text.toList.tail

section
variable {members : List Char} {callId : UInt16} {payload : Bytes}

theorem ofMembers?_request {method : UInt32} {object : UInt64}
    (typeName : findMember "type" members = some (.text "request"))
    (call : findMember "call_id" members = some (.number callId.toNat))
    (methodId : findMember "method_id" members = some (.number method.toNat))
    (objectId : findMember "object_id" members = some (.number object.toNat))
    (payloadHex : findMember "payload_hex" members = some (.text (Hex.encode payload))) :
    ofMembers? members = some (request callId method object payload) := by
  have small := callId.toNat_lt
  have small' := method.toNat_lt
  have small'' := object.toNat_lt
  simp [ofMembers?, typeName, call, methodId, objectId, payloadHex, JsonDatum.text?, JsonDatum.below?, small, small',
    small'', ofReport?, Hex.decode_encode]

theorem ofMembers?_response (typeName : findMember "type" members = some (.text "response"))
    (call : findMember "call_id" members = some (.number callId.toNat))
    (payloadHex : findMember "payload_hex" members = some (.text (Hex.encode payload))) :
    ofMembers? members = some (response callId payload) := by
  have small := callId.toNat_lt
  simp [ofMembers?, typeName, call, payloadHex, JsonDatum.text?, JsonDatum.below?, small, ofReport?,
    Hex.decode_encode]

end

end Message

namespace Summary

/-- The message that the fields of a summary tell of. -/
def message? (s : Summary) : Option Message :=
  Message.ofReport? s.typeName s.callId s.methodId s.objectId s.payloadHex

theorem ofJsonReport?_display (s : Summary) :
    Message.ofJsonReport? (s.display .json) = Message.ofMembers? (memberChars s.members ++ ['\n']) := by
  have text : Bytes.toText? (s.display .json) = some (s.json ++ "\n") := Bytes.toText?_ofText _
  rw [Message.ofJsonReport?, text]
  simp [json, jsonObject, memberChars]

theorem ofJsonReport?_request (callId : UInt16) (method : UInt32) (object : UInt64) (args : Bytes)
    (value : Option Argument) :
    Message.ofJsonReport? ((ofFields "request" callId (some method) (some object) args value).display .json) =
      some (.request callId method object args) := by
  let data : List (String × JsonDatum) :=
    [("type", .text "request"), ("call_id", .number callId.toNat), ("method_id", .number method.toNat),
      ("object_id", .number object.toNat), ("payload_size", .number args.length),
      ("payload_hex", .text (Hex.encode args))]
  have found {name : String} {datum : JsonDatum} (own : data.lookup name = some datum) :=
    findMember_of_lookup own ((value.map Argument.json).map fun value => ("value", value)).toList ['\n']
  rw [ofJsonReport?_display]
  exact Message.ofMembers?_request (found rfl) (found rfl) (found rfl) (found rfl) (found rfl)

theorem ofJsonReport?_response (callId : UInt16) (payload : Bytes) (value : Option Argument) :
    Message.ofJsonReport? ((ofFields "response" callId none none payload value).display .json) =
      some (.response callId payload) := by
  let data : List (String × JsonDatum) :=
    [("type", .text "response"), ("call_id", .number callId.toNat), ("payload_size", .number payload.length),
      ("payload_hex", .text (Hex.encode payload))]
  have found {name : String} {datum : JsonDatum} (own : data.lookup name = some datum) :=
    findMember_of_lookup own ((value.map Argument.json).map fun value => ("value", value)).toList ['\n']
  rw [ofJsonReport?_display]
  exact Message.ofMembers?_response (found rfl) (found rfl) (found rfl)

/-- What is printed in a format lets the message be told: JSON lets it be built again; a table shows each field, a line
shows the payload unless that was decoded, and raw output is the payload. -/
def Shows (s : Summary) (m : Message) : OutputFormat → Bytes → Prop
  | .json, printed => Message.ofJsonReport? printed = some m
  | .table, printed => ∀ row ∈ s.rows, Bytes.ofText row.1 <:+: printed ∧ Bytes.ofText row.2 <:+: printed
  | .pretty, printed => s.value = none → Bytes.ofText s.payloadHex <:+: printed
  | .raw, printed => printed = s.payload ∧ Hex.encode printed = s.payloadHex

theorem shows_display {s : Summary} {m : Message} (hex : s.payloadHex = Hex.encode s.payload)
    (json : Message.ofJsonReport? (s.display .json) = some m) (format : OutputFormat) :
    s.Shows m format (s.display format) := by
  cases format with
  | json => exact json
  | table =>
    intro row member
    obtain ⟨name, cell⟩ := infix_tableText ("FIELD", "VALUE") member
    have whole : (tableText ("FIELD", "VALUE") s.rows).toList <:+: (tableText ("FIELD", "VALUE") s.rows ++ "\n").toList :=
      ⟨[], ['\n'], by simp⟩
    exact ⟨Bytes.ofText_infix (name.trans whole), Bytes.ofText_infix (cell.trans whole)⟩
  | pretty =>
    intro undecoded
    have ended : ∃ before, s.line = before ++ s.payloadHex := by
      simp only [line, undecoded, toString]
      exact ⟨_, String.append_assoc.symm⟩
    obtain ⟨before, ended⟩ := ended
    apply Bytes.ofText_infix
    exact ⟨before.toList, ['\n'], by simp [ended]⟩
  | raw => exact ⟨rfl, hex.symm⟩

/-- A summary tells of a message, by its fields as well as in what is printed, and of a value if one was decoded. -/
structure Tells (s : Summary) (m : Message) (isDecoded : Bool) : Prop where
  fields : s.message? = some m
  shown : ∀ format, s.Shows m format (s.display format)
  value : s.value.isSome = isDecoded

theorem ofMessage_tells {m : Message} (valid : m.validate = .ok ()) (value : Option Argument) :
    ∃ s, ofMessage m value = .ok s ∧ s.Tells m value.isSome := by
  rcases Message.eq_request_or_response valid with ⟨callId, methodId, objectId, args, rfl⟩ | ⟨callId, payload, rfl⟩
  · refine ⟨_, rfl, ?_, ?_, Option.isSome_map⟩
    · simp only [message?, ofFields, Message.ofReport?, Hex.decode_encode]
      rfl
    · exact shows_display rfl (ofJsonReport?_request callId methodId objectId args value)
  · refine ⟨_, rfl, ?_, ?_, Option.isSome_map⟩
    · simp only [message?, ofFields, Message.ofReport?, Hex.decode_encode]
      rfl
    · exact shows_display rfl (ofJsonReport?_response callId payload value)

end Summary
end CallWire
