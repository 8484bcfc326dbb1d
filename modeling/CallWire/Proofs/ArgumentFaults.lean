import CallWire.Proofs.BufferMemory
import CallWire.Proofs.RequestArguments

/-! Requests from arguments of which nothing is known: an encoder may put more or less than it has announced, or give up.
Put at once the arguments share the space announced for all of them, put one by one each has its own. Either way the
first argument at which something goes wrong decides, and otherwise zeros fill what was not used. -/

namespace CallWire

/-- An encoder that puts one byte string, and then may give up. -/
structure SinglePut where
  size : Nat
  content : Bytes
  ownError : Option WireError
  sized : size < sizeLimit

namespace SinglePut

def encodable (a : SinglePut) : Encodable := ⟨a.size, .bytes a.content :: (a.ownError.map .refuse).toList⟩

/-- What goes wrong with an argument at a position of a buffer: there is not room for all of it, or else it gives up. -/
def faultAt (a : SinglePut) (position available : Nat) : Option WireError :=
  if available < position + a.content.length then some (.bufferTooSmall (position + a.content.length) available)
  else a.ownError

/-- The argument's own space after it was put there. -/
def padded (a : SinglePut) : Bytes := a.content ++ List.replicate (a.size - a.content.length) 0

section
variable {a : SinglePut} {position available : Nat} {error : WireError}

theorem faultAt_eq_none :
    a.faultAt position available = none ↔ position + a.content.length ≤ available ∧ a.ownError = none := by
  unfold faultAt
  by_cases fits : available < position + a.content.length
  · rw [if_pos fits]
    simp only [reduceCtorEq, false_iff, not_and]
    omega
  · rw [if_neg fits]
    exact (and_iff_right (Nat.not_lt.mp fits)).symm

theorem image_encodable (a : SinglePut) : a.encodable.image = a.content := by
  obtain ⟨size, content, ownError⟩ := a
  cases ownError with
  | none | some => simp [encodable, Encodable.image, Piece.image]

theorem region_encodable (a : SinglePut) : a.encodable.region = a.padded := by
  rw [Encodable.region, image_encodable]
  rfl

theorem isPlain_of_content (calm : a.ownError = none) : ∀ piece ∈ a.encodable.pieces, piece.IsPlain := by
  intro piece member
  rw [encodable, calm] at member
  cases List.mem_singleton.mp member
  trivial

theorem fits_of_faultAt (faultless : a.faultAt 0 a.size = none) : a.encodable.Fits := by
  obtain ⟨room, calm⟩ := faultAt_eq_none.mp faultless
  refine ⟨isPlain_of_content calm, ?_⟩
  rw [image_encodable, ← Nat.zero_add a.content.length]
  exact room

/-- The writer stops at just the fault there is for where it stands. -/
theorem putAll_of_faultAt {w : Writer} (fault : a.faultAt w.position w.buffer.length = some error) (later : List Piece) :
    ∃ stopped, w.putAll (a.encodable.pieces ++ later) = (stopped, .error error) := by
  rw [Writer.length_buffer, faultAt] at fault
  by_cases full : w.position + w.remaining < w.position + a.content.length
  · rw [if_pos full] at fault
    cases fault
    have refused : w.put (.bytes a.content) =
        .error (.bufferTooSmall (w.position + a.content.length) (w.position + w.remaining)) := if_neg (by omega)
    refine ⟨w, ?_⟩
    simp only [encodable, List.cons_append, Writer.putAll, refused]
  · rw [if_neg full] at fault
    have plain : ∀ piece ∈ [Piece.bytes a.content], piece.IsPlain := by simp [Piece.IsPlain]
    have room : ([Piece.bytes a.content].flatMap Piece.image).length ≤ w.free.length := by
      simp only [Writer.remaining] at full
      simp only [List.flatMap_singleton, Piece.image]
      omega
    have split : a.encodable.pieces ++ later = [.bytes a.content] ++ .refuse error :: later := by
      rw [encodable, fault]
      rfl
    rw [split]
    exact Writer.putAll_own plain room rfl

end

/-- What is said of each member with those before it is said of the last and of the others. -/
theorem forall_split_concat {P : List SinglePut → SinglePut → Prop} {before : List SinglePut} {a : SinglePut} :
    (∀ front b after, before ++ [a] = front ++ b :: after → P front b) ↔
      (∀ front b after, before = front ++ b :: after → P front b) ∧ P before a := by
  constructor
  · intro each
    refine ⟨?_, each before a [] rfl⟩
    rintro front b after rfl
    exact each front b (after ++ [a]) (by simp)
  · rintro ⟨each, last⟩ front b after split
    obtain rfl | ⟨after, final, rfl⟩ := after.eq_nil_or_concat'
    · obtain ⟨rfl, same⟩ := List.append_inj' split rfl
      cases same
      exact last
    · rw [← List.cons_append, ← List.append_assoc] at split
      exact each front b after (List.append_inj' split rfl).1

section
variable (fault : List SinglePut → SinglePut → Option WireError)

/-- Nothing goes wrong, each argument being judged with those before it. -/
def IsFaultless (args : List SinglePut) : Prop :=
  ∀ before a after, args = before ++ a :: after → fault before a = none

/-- What goes wrong first. -/
def IsFirstFault (args : List SinglePut) (error : WireError) : Prop :=
  ∃ before a after, args = before ++ a :: after ∧ IsFaultless fault before ∧ fault before a = some error

variable {fault} {args before : List SinglePut} {a : SinglePut}

theorem isFaultless_nil : IsFaultless fault [] := by
  intro before a after split
  simp at split

theorem IsFaultless.concat (faultless : IsFaultless fault before) (last : fault before a = none) :
    IsFaultless fault (before ++ [a]) := forall_split_concat.mpr ⟨faultless, last⟩

theorem firstFault_or_faultless (args : List SinglePut) :
    (∃ error, IsFirstFault fault args error) ∨ IsFaultless fault args := by
  induction args using List.reverseRecOn with
  | nil => exact .inr isFaultless_nil
  | append_singleton before a ih =>
    obtain ⟨error, front, b, after, rfl, faultless, wrong⟩ | faultless := ih
    · refine .inl ⟨error, front, b, after ++ [a], ?_, faultless, wrong⟩
      rw [List.append_assoc, List.cons_append]
    · cases last : fault before a with
      | none => exact .inr (faultless.concat last)
      | some error => exact .inl ⟨error, before, a, [], rfl, faultless, last⟩

theorem IsFirstFault.not_faultless {error : WireError} (first : IsFirstFault fault args error) :
    ¬ IsFaultless fault args := by
  obtain ⟨before, a, after, split, -, wrong⟩ := first
  intro faultless
  cases (faultless before a after split).symm.trans wrong

/-- As something goes wrong first or nothing does, what comes of either is all that can come. -/
theorem outcomes_iff {built : Except MessageError Message} {whole : Message}
    (fails : ∀ error, IsFirstFault fault args error → built = .error (.wire error))
    (succeeds : IsFaultless fault args → built = .ok whole) :
    (∀ e, built = .error e ↔ ∃ error, IsFirstFault fault args error ∧ e = .wire error) ∧
      ∀ m, built = .ok m ↔ IsFaultless fault args ∧ m = whole := by
  obtain ⟨error, first⟩ | faultless := @firstFault_or_faultless fault args
  · have failed := fails error first
    refine ⟨fun e => ⟨fun outcome => ⟨error, first, ?_⟩, ?_⟩, fun m => ⟨fun outcome => ?_, ?_⟩⟩
    · exact Except.error.inj (outcome.symm.trans failed)
    · rintro ⟨error, first, rfl⟩
      exact fails error first
    · cases failed.symm.trans outcome
    · rintro ⟨faultless, -⟩
      exact absurd faultless first.not_faultless
  · have made := succeeds faultless
    refine ⟨fun e => ⟨fun outcome => ?_, ?_⟩, fun m => ⟨fun outcome => ⟨faultless, ?_⟩, ?_⟩⟩
    · cases made.symm.trans outcome
    · rintro ⟨error, first, -⟩
      exact absurd faultless first.not_faultless
    · exact Except.ok.inj (outcome.symm.trans made)
    · rintro ⟨-, rfl⟩
      exact made

end

/-- All bytes that are put. -/
def contents (args : List SinglePut) : Bytes := args.flatMap content

def announced (args : List SinglePut) : Nat := total (args.map size)

/-- Arguments that are put at once stand one behind the other in the space that is announced for all. -/
def sharedFault (space : Nat) (before : List SinglePut) (a : SinglePut) : Option WireError :=
  a.faultAt (requestPrefixSize + (contents before).length) (requestPrefixSize + space)

/-- Arguments that are put one by one have each a space of their own. -/
def ownFault (_ : List SinglePut) (a : SinglePut) : Option WireError := a.faultAt 0 a.size

section
variable {args before : List SinglePut} {space : Nat}

theorem flatMap_image (args : List SinglePut) :
    ((args.map encodable).flatMap Encodable.pieces).flatMap Piece.image = contents args := by
  rw [List.flatMap_assoc, List.flatMap_map]
  exact List.flatMap_congr fun a _ => image_encodable a

theorem joined_size (args : List SinglePut) : (Encodable.joined (args.map encodable)).size = announced args := by
  rw [Encodable.joined, List.map_map]
  rfl

/-- Arguments among which nothing goes wrong give up nowhere, and stay within the common space. -/
theorem IsFaultless.shared (faultless : IsFaultless (sharedFault space) before) :
    (∀ piece ∈ (before.map encodable).flatMap Encodable.pieces, piece.IsPlain) ∧ (contents before).length ≤ space := by
  constructor
  · intro piece member
    obtain ⟨e, present, own⟩ := List.mem_flatMap.mp member
    obtain ⟨a, inside, rfl⟩ := List.mem_map.mp present
    obtain ⟨front, after, split⟩ := List.append_of_mem inside
    exact isPlain_of_content (faultAt_eq_none.mp (faultless front a after split)).2 piece own
  · obtain rfl | ⟨front, last, rfl⟩ := before.eq_nil_or_concat'
    · exact Nat.zero_le space
    · have room := (faultAt_eq_none.mp (faultless front last [] rfl)).1
      simp only [contents, List.flatMap_append, List.flatMap_singleton, List.length_append] at room ⊢
      omega

theorem IsFaultless.fits (faultless : IsFaultless ownFault args) : ∀ e ∈ args.map encodable, e.Fits := by
  intro e member
  obtain ⟨a, inside, rfl⟩ := List.mem_map.mp member
  obtain ⟨front, after, split⟩ := List.append_of_mem inside
  exact fits_of_faultAt (faultless front a after split)

end

section
variable (callId : UInt16) (methodId : UInt32) (objectId : UInt64) {args : List SinglePut} {error : WireError}

theorem buildRequest_of_faultless (faultless : IsFaultless (sharedFault (announced args)) args) :
    Message.buildRequest callId methodId objectId (args.map encodable) =
      .ok (.request callId methodId objectId
        (contents args ++ List.replicate (announced args - (contents args).length) 0)) := by
  obtain ⟨plain, room⟩ := faultless.shared
  have image : (Encodable.joined (args.map encodable)).image = contents args := flatMap_image args
  have fits : (Encodable.joined (args.map encodable)).Fits := by
    refine ⟨plain, ?_⟩
    rw [image, joined_size]
    exact room
  rw [Message.buildRequest, encodePayload_of_fits fits, Encodable.region, image, joined_size]
  rfl

theorem buildRequest_of_firstFault (first : IsFirstFault (sharedFault (announced args)) args error) :
    Message.buildRequest callId methodId objectId (args.map encodable) = .error (.wire error) := by
  obtain ⟨before, a, after, split, faultless, wrong⟩ := first
  obtain ⟨plain, room⟩ := faultless.shared
  let front := (Message.request callId methodId objectId []).bytes
  let start : Writer := ⟨front, List.replicate (announced args) 0⟩
  let reached : Writer := ⟨front ++ contents before, List.replicate (announced args - (contents before).length) 0⟩
  have put : start.putAll ((before.map encodable).flatMap Encodable.pieces) = (reached, .ok ()) := by
    have within : (((before.map encodable).flatMap Encodable.pieces).flatMap Piece.image).length ≤ start.free.length := by
      rw [flatMap_image, List.length_replicate]
      exact room
    rw [Writer.putAll_plain plain within, flatMap_image, List.drop_replicate]
  have position : reached.position = requestPrefixSize + (contents before).length := List.length_append
  have length : reached.buffer.length = requestPrefixSize + announced args := by
    rw [Writer.length_buffer, position, Writer.remaining, List.length_replicate]
    omega
  rw [sharedFault, ← position, ← length] at wrong
  obtain ⟨stopped, refused⟩ := putAll_of_faultAt wrong ((after.map encodable).flatMap Encodable.pieces)
  have pieces : (args.map encodable).flatMap Encodable.pieces =
      (before.map encodable).flatMap Encodable.pieces ++
        (a.encodable.pieces ++ (after.map encodable).flatMap Encodable.pieces) := by
    rw [split, List.map_append, List.flatMap_append, List.map_cons, List.flatMap_cons]
  have outcome : (⟨front, List.replicate (Encodable.joined (args.map encodable)).size 0⟩ : Writer).putAll
      (Encodable.joined (args.map encodable)).pieces = (stopped, .error error) := by
    rw [joined_size, Encodable.joined, pieces, Writer.putAll_append, put]
    exact refused
  rw [Message.buildRequest, encodePayload_eq, outcome]
  rfl

/-- Nothing of a failed argument stays. -/
theorem arg_of_faultAt {b : RequestBuilder} {a : SinglePut} (well : b.error = none)
    (fault : a.faultAt 0 a.size = some error) :
    b.arg a.encodable = { b with error := some error } := by
  have zeros : (Writer.onto (List.replicate a.size 0)).buffer.length = a.size := by
    simp [Writer.onto, Writer.buffer]
  have wrong : a.faultAt (Writer.onto (List.replicate a.size 0)).position
      (Writer.onto (List.replicate a.size 0)).buffer.length = some error := by
    rw [zeros]
    exact fault
  obtain ⟨stopped, refused⟩ := putAll_of_faultAt wrong []
  rw [List.append_nil] at refused
  have refused : (Writer.onto (List.replicate a.encodable.size 0)).putAll a.encodable.pieces = (stopped, .error error) := refused
  simp only [RequestBuilder.arg, well, refused]

theorem foldl_arg_of_faultless (faultless : IsFaultless ownFault args) :
    (args.map encodable).foldl RequestBuilder.arg (.start callId methodId objectId) =
      { RequestBuilder.start callId methodId objectId with args := args.flatMap padded } := by
  rw [RequestBuilder.foldl_arg_of_fits rfl faultless.fits, List.flatMap_map]
  simp only [region_encodable]
  rfl

theorem foldl_arg_of_firstFault {before after : List SinglePut} {a : SinglePut} (split : args = before ++ a :: after)
    (faultless : IsFaultless ownFault before) (wrong : ownFault before a = some error) :
    (args.map encodable).foldl RequestBuilder.arg (.start callId methodId objectId) =
      { RequestBuilder.start callId methodId objectId with args := before.flatMap padded, error := some error } := by
  rw [split, List.map_append, List.foldl_append, foldl_arg_of_faultless callId methodId objectId faultless, List.map_cons,
    List.foldl_cons, arg_of_faultAt rfl wrong, RequestBuilder.foldl_arg_of_error rfl]

/-! ### In memory -/

theorem error_foldl_arg (args : List SinglePut) :
    ((args.map encodable).foldl RequestBuilder.arg (.start callId methodId objectId)).error = none ↔
      IsFaultless ownFault args := by
  obtain ⟨error, first⟩ | faultless := @firstFault_or_faultless ownFault args
  · obtain ⟨before, a, after, split, calm, wrong⟩ := id first
    rw [foldl_arg_of_firstFault callId methodId objectId split calm wrong]
    exact ⟨nofun, fun faultless => absurd faultless first.not_faultless⟩
  · rw [foldl_arg_of_faultless callId methodId objectId faultless]
    exact ⟨fun _ => faultless, fun _ => rfl⟩

theorem length_foldl_arg (faultless : IsFaultless ownFault args) :
    ((args.map encodable).foldl RequestBuilder.arg (.start callId methodId objectId)).args.length = announced args := by
  have size := RequestBuilder.argsSize_of_fits (b := .start callId methodId objectId) rfl faultless.fits
  rw [List.map_map] at size
  exact size.trans (Nat.zero_add _)

theorem announced_concat (before : List SinglePut) (a : SinglePut) :
    announced (before ++ [a]) = announced before + a.size := by
  rw [announced, List.map_append, total_append]
  rfl

/-- There is memory for the region of each argument, behind those before it, as long as nothing went wrong. -/
def HasRegions (memory : Memory) (args : List SinglePut) : Prop :=
  ∀ before a after, args = before ++ a :: after → IsFaultless ownFault before → memory.holds (announced before + a.size)

theorem foldlM_arg?_eq_some {memory : Memory} {args : List SinglePut} {b : RequestBuilder} :
    (args.map encodable).foldlM memory.arg? (.start callId methodId objectId) = some b ↔
      HasRegions memory args ∧ b = (args.map encodable).foldl RequestBuilder.arg (.start callId methodId objectId) := by
  induction args using List.reverseRecOn generalizing b with
  | nil =>
    refine ⟨fun same => ⟨fun before a after split => ?_, (Option.some.inj same).symm⟩,
      fun outcome => congrArg some outcome.2.symm⟩
    simp at split
  | append_singleton before a ih =>
    have region : (((before.map encodable).foldl RequestBuilder.arg (.start callId methodId objectId)).error = none →
        memory.holds (((before.map encodable).foldl RequestBuilder.arg (.start callId methodId objectId)).args.length +
          a.encodable.size)) ↔ (IsFaultless ownFault before → memory.holds (announced before + a.size)) := by
      rw [error_foldl_arg]
      refine forall_congr' fun faultless => ?_
      rw [length_foldl_arg callId methodId objectId faultless]
      rfl
    have single (b : RequestBuilder) : ([a].map encodable).foldlM memory.arg? b = memory.arg? b a.encodable := bind_pure _
    rw [HasRegions, forall_split_concat, List.map_append, List.foldlM_append, List.foldl_append, Option.bind_eq_bind,
      Option.bind_eq_some_iff]
    simp only [single, Memory.arg?_eq_some (show a.encodable.size < sizeLimit from a.sized), ih, ← region]
    constructor
    · rintro ⟨_, ⟨regions, rfl⟩, held, rfl⟩
      exact ⟨⟨regions, held⟩, rfl⟩
    · rintro ⟨⟨regions, held⟩, rfl⟩
      exact ⟨_, ⟨regions, rfl⟩, held, rfl⟩

theorem HasRegions.before {memory : Memory} {before after : List SinglePut}
    (regions : HasRegions memory (before ++ after)) : HasRegions memory before := by
  rintro front b others rfl
  exact regions front b (others ++ after) (by simp)

theorem HasRegions.announced_lt {memory : Memory} (regions : HasRegions memory args)
    (faultless : IsFaultless ownFault args) : announced args < bufferLimit := by
  obtain rfl | ⟨before, a, rfl⟩ := args.eq_nil_or_concat'
  · decide
  · obtain ⟨earlier, last⟩ := forall_split_concat.mp faultless
    have held := memory.holds_lt (regions before a [] rfl earlier)
    rwa [announced_concat]

theorem buildRequest?_of_lt {memory : Memory} (small : requestPrefixSize + announced args < sizeLimit) :
    memory.buildRequest? callId methodId objectId (args.map encodable) =
      if memory.holds (requestPrefixSize + announced args) then
        some (Message.buildRequest callId methodId objectId (args.map encodable))
      else none := by
  have sizes : total ((args.map encodable).map Encodable.size) = announced args := by
    rw [List.map_map]
    rfl
  rw [← sizes] at small ⊢
  exact Memory.buildRequest?_of_lt small

/-- There is memory for all that is asked for: the regions, and the whole message if nothing went wrong. -/
def HasRoom (memory : Memory) (args : List SinglePut) : Prop :=
  HasRegions memory args ∧ (IsFaultless ownFault args → memory.holds (requestPrefixSize + announced args))

theorem HasRoom.of_holds {memory : Memory} (held : ∀ n ≤ requestPrefixSize + announced args, memory.holds n) :
    HasRoom memory args := by
  refine ⟨?_, fun _ => held _ (Nat.le_refl _)⟩
  rintro before a after rfl -
  apply held
  simp only [announced, List.map_append, List.map_cons, total_append]
  show _ ≤ requestPrefixSize + (_ + (a.size + _))
  omega

theorem buildStepwise?_of_hasRoom {memory : Memory} (room : HasRoom memory args) :
    memory.buildStepwise? callId methodId objectId (args.map encodable) =
      some ((args.map encodable).foldl RequestBuilder.arg (.start callId methodId objectId)).build := by
  have added := (foldlM_arg?_eq_some callId methodId objectId).mpr ⟨room.1, rfl⟩
  rw [Memory.buildStepwise?, added, Option.bind_some]
  cases failed : ((args.map encodable).foldl RequestBuilder.arg (.start callId methodId objectId)).error with
  | some error => exact Memory.build?_of_error failed
  | none =>
    have faultless := (error_foldl_arg callId methodId objectId args).mp failed
    have held := room.2 faultless
    rw [← length_foldl_arg callId methodId objectId faultless] at held
    rw [Memory.build?_of_lt failed (Memory.lt_sizeLimit held), if_pos held]

theorem buildStepwise?_of_not_hasRoom {memory : Memory} (full : ¬ HasRoom memory args) :
    memory.buildStepwise? callId methodId objectId (args.map encodable) = none := by
  rw [Memory.buildStepwise?]
  cases added : (args.map encodable).foldlM memory.arg? (.start callId methodId objectId) with
  | none => rfl
  | some b =>
    obtain ⟨regions, rfl⟩ := (foldlM_arg?_eq_some callId methodId objectId).mp added
    have last : ¬ (IsFaultless ownFault args → memory.holds (requestPrefixSize + announced args)) :=
      fun held => full ⟨regions, held⟩
    obtain ⟨faultless, unheld⟩ := Classical.not_imp.mp last
    have short := regions.announced_lt faultless
    have length := length_foldl_arg callId methodId objectId faultless
    have well := (error_foldl_arg callId methodId objectId args).mpr faultless
    have small : requestPrefixSize + announced args < sizeLimit := by
      simp only [requestPrefixSize, sizeLimit, bufferLimit] at short ⊢
      omega
    rw [Option.bind_some, Memory.build?_of_lt well (length.symm ▸ small), length, if_neg unheld]

/-- What comes of every list of arguments. Put at once, the first of them that gives up or goes beyond the space announced
for all is the failure of the request, and otherwise their bytes follow each other, with zeros behind the last. Put one
by one, the first that gives up or goes beyond its own space is; it leaves the arguments before it as they were, and
those after it are not looked at; otherwise zeros fill the space of each. There has to be memory for what is announced:
without it nothing is built, unless a sum of sizes put at once wraps around. -/
theorem building_in_memory (memory : Memory) (args : List SinglePut) :
    let start := RequestBuilder.start callId methodId objectId
    let atOnce := memory.buildRequest? callId methodId objectId (args.map encodable)
    let oneByOne := memory.buildStepwise? callId methodId objectId (args.map encodable)
    let needed := requestPrefixSize + announced args
    (memory.holds needed →
      (∀ e, atOnce = some (.error e) ↔ ∃ error, IsFirstFault (sharedFault (announced args)) args error ∧ e = .wire error) ∧
      ∀ m, atOnce = some (.ok m) ↔ IsFaultless (sharedFault (announced args)) args ∧
        m = .request callId methodId objectId
          (contents args ++ List.replicate (announced args - (contents args).length) 0)) ∧
    (¬ memory.holds needed → needed < sizeLimit → atOnce = none) ∧
    (HasRoom memory args →
      (∀ e, oneByOne = some (.error e) ↔ ∃ error, IsFirstFault ownFault args error ∧ e = .wire error) ∧
      ∀ m, oneByOne = some (.ok m) ↔ IsFaultless ownFault args ∧
        m = .request callId methodId objectId (args.flatMap padded)) ∧
    (¬ HasRoom memory args → oneByOne = none) ∧
    (∀ before a after error, args = before ++ a :: after → HasRegions memory args → IsFaultless ownFault before →
      ownFault before a = some error →
      ∃ reached failed, (before.map encodable).foldlM memory.arg? start = some reached ∧
        memory.arg? reached a.encodable = some failed ∧ reached.args = before.flatMap padded ∧
        reached.argsSize = announced before ∧ failed.args = reached.args ∧ failed.argsSize = reached.argsSize ∧
        ∀ more : List Encodable, more.foldlM memory.arg? failed = some failed) ∧
    ∀ payload, (Message.request callId methodId objectId payload).bytes =
      [preambleByte, MessageType.request.toByte] ++ Bytes.littleEndian 2 callId.toNat ++
        Bytes.littleEndian 4 methodId.toNat ++ Bytes.littleEndian 8 objectId.toNat ++ payload := by
  intro start atOnce oneByOne needed
  -- Both ways of building are decided by the first fault; they differ in the room in which it is looked for.
  refine ⟨?_, ?_, ?_, buildStepwise?_of_not_hasRoom callId methodId objectId, ?_, ?_⟩
  · intro held
    have built : atOnce = some (Message.buildRequest callId methodId objectId (args.map encodable)) :=
      (buildRequest?_of_lt callId methodId objectId (Memory.lt_sizeLimit held)).trans (if_pos held)
    simp only [built, Option.some.injEq]
    exact outcomes_iff (fun _ => buildRequest_of_firstFault callId methodId objectId)
      (buildRequest_of_faultless callId methodId objectId)
  · intro unheld small
    exact (buildRequest?_of_lt callId methodId objectId small).trans (if_neg unheld)
  · intro room
    simp only [show oneByOne = _ from buildStepwise?_of_hasRoom callId methodId objectId room, Option.some.injEq]
    apply outcomes_iff
    · rintro error ⟨before, a, after, split, faultless, wrong⟩
      rw [foldl_arg_of_firstFault callId methodId objectId split faultless wrong]
      rfl
    · intro faultless
      rw [foldl_arg_of_faultless callId methodId objectId faultless]
      rfl
  · rintro before a after error rfl regions faultless wrong
    have filled := foldl_arg_of_faultless callId methodId objectId faultless
    have stopped := arg_of_faultAt (b := { start with args := before.flatMap padded }) rfl wrong
    have length := length_foldl_arg callId methodId objectId faultless
    rw [filled] at length
    refine ⟨_, _, (foldlM_arg?_eq_some callId methodId objectId).mpr ⟨regions.before, filled.symm⟩,
      (Memory.arg?_eq_some (show a.encodable.size < sizeLimit from a.sized)).mpr ⟨fun _ => ?_, stopped.symm⟩,
      rfl, length, rfl, rfl, ?_⟩
    · rw [length]
      exact regions before a after rfl faultless
    · exact fun more => Memory.foldlM_arg?_of_error rfl more
  · intro payload
    simp [Message.request, Message.bytes, Body.typeByte, Body.bytes]

/-- A size for which there is no buffer: the argument would give up, which it never comes to. -/
theorem builds_nothing_beyond_memory :
    let endless : SinglePut := ⟨2 ^ 63, [], some (.lengthOverflow 5), by decide⟩
    IsFirstFault (sharedFault (announced [endless])) [endless] (.lengthOverflow 5) ∧
      IsFirstFault ownFault [endless] (.lengthOverflow 5) ∧
      ∀ memory : Memory, memory.buildRequest? 1 1 0 [endless.encodable] = none ∧
        memory.buildStepwise? 1 1 0 [endless.encodable] = none := by
  intro endless
  have size : announced [endless] = bufferLimit := by simp [announced, total, endless, bufferLimit]
  have wrong {position available : Nat} (within : position ≤ available) :
      endless.faultAt position available = some (.lengthOverflow 5) := if_neg (Nat.not_lt.mpr within)
  have shared : sharedFault (announced [endless]) [] endless = some (.lengthOverflow 5) :=
    wrong (Nat.add_le_add_left (Nat.zero_le _) _)
  have own : ownFault [] endless = some (.lengthOverflow 5) := wrong (Nat.zero_le _)
  refine ⟨⟨[], endless, [], rfl, isFaultless_nil, shared⟩, ⟨[], endless, [], rfl, isFaultless_nil, own⟩, fun memory => ?_⟩
  have unheld {n : Nat} (long : bufferLimit ≤ n) : ¬ memory.holds n := fun held =>
    absurd (memory.holds_lt held) (Nat.not_lt.mpr long)
  constructor
  · have small : requestPrefixSize + announced [endless] < sizeLimit := by
      rw [size]
      decide
    refine (buildRequest?_of_lt 1 1 0 small).trans (if_neg (unheld ?_))
    rw [size]
    exact Nat.le_add_left _ _
  · have full : ¬ HasRoom memory [endless] := by
      intro room
      have held := room.1 [] endless [] rfl isFaultless_nil
      rw [← announced_concat, List.nil_append, size] at held
      exact unheld (Nat.le_refl _) held
    exact buildStepwise?_of_not_hasRoom 1 1 0 full

/-- An argument leaves room that the next one needs, which helps only if they share it; a third gives up. -/
theorem building_in_memory_shared_room :
    let short : SinglePut := ⟨3, [1], none, by decide⟩
    let long : SinglePut := ⟨1, [2, 3], none, by decide⟩
    let failing : SinglePut := ⟨2, [4], some .invalidUtf8, by decide⟩
    let memory := Memory.whole
    memory.holds (requestPrefixSize + announced [short, long, failing]) ∧ HasRoom memory [short, long, failing] ∧
      memory.buildRequest? 7 2 3 ([short, long].map encodable) = some (.ok (.request 7 2 3 [1, 2, 3, 0])) ∧
      memory.buildRequest? 7 2 3 ([short, long, failing].map encodable) = some (.error (.wire .invalidUtf8)) ∧
      memory.buildStepwise? 7 2 3 ([short, long, failing].map encodable) =
        some (.error (.wire (.bufferTooSmall 2 1))) := by
  intro short long failing memory
  have first : IsFaultless ownFault [short] := isFaultless_nil.concat rfl
  have both {space : Nat} (room : sharedFault space [] short = none) (room' : sharedFault space [short] long = none) :
      IsFaultless (sharedFault space) [short, long] := (isFaultless_nil.concat room).concat room'
  have room : HasRoom memory [short, long, failing] := by
    refine HasRoom.of_holds fun n small => decide_eq_true (Nat.lt_of_le_of_lt small ?_)
    decide
  obtain ⟨made, -⟩ := building_in_memory 7 2 3 memory [short, long]
  obtain ⟨refused, -, stopped, -⟩ := building_in_memory 7 2 3 memory [short, long, failing]
  refine ⟨by decide, room, ?_, ?_, ?_⟩
  · exact ((made (by decide)).2 _).mpr ⟨both rfl rfl, rfl⟩
  · exact ((refused (by decide)).1 _).mpr ⟨_, ⟨[short, long], failing, [], rfl, both rfl rfl, rfl⟩, rfl⟩
  · exact ((stopped room).1 _).mpr ⟨_, ⟨[short], long, [failing], rfl, first, rfl⟩, rfl⟩

end
end SinglePut
end CallWire
