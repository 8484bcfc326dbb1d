import CallWire.Message.Memory
import CallWire.Proofs.MessageLayout
import Mathlib.Data.List.Induction

/-! Building messages in memory. Where there is memory for a buffer of the announced size, the message is the one that is
built without a look at memory; where a size is too long for memory nothing is built. -/

namespace CallWire.Memory

section
variable {memory : Memory}

theorem add?_of_lt {a b : Nat} (small : a + b < sizeLimit) : memory.add? a b = some (a + b) := if_pos small

theorem sum?_of_lt {sizes : List Nat} (small : total sizes < sizeLimit) : memory.sum? sizes = some (total sizes) := by
  have general : ∀ (sizes : List Nat) (sofar : Nat), sofar + total sizes < sizeLimit →
      sizes.foldlM memory.add? sofar = some (sofar + total sizes) := by
    intro sizes
    induction sizes with
    | nil => exact fun sofar _ => rfl
    | cons size rest ih =>
      intro sofar small
      have split : total (size :: rest) = size + total rest := rfl
      have first : sofar + size < sizeLimit := by omega
      rw [List.foldlM_cons, add?_of_lt first, split, ← Nat.add_assoc]
      exact ih (sofar + size) (by omega)
  have summed := general sizes 0 (by omega)
  rwa [Nat.zero_add] at summed

theorem lt_sizeLimit {n : Nat} (held : memory.holds n) : n < sizeLimit :=
  Nat.lt_trans (memory.holds_lt held) (by decide)

variable {front : Encodable} {contents : List Encodable}

theorem fill?_of_lt (small : front.size + total (contents.map Encodable.size) < sizeLimit) :
    memory.fill? front contents =
      if memory.holds (front.size + total (contents.map Encodable.size)) then some (fill (front :: contents)) else none := by
  have summed : memory.sum? (contents.map Encodable.size) = some (total (contents.map Encodable.size)) :=
    sum?_of_lt (by omega)
  simp only [fill?, summed, add?_of_lt small, zeros?, Option.bind_eq_bind, Option.bind_some]
  by_cases held : memory.holds (front.size + total (contents.map Encodable.size))
  · have space : total ((front :: contents).map Encodable.size) = front.size + total (contents.map Encodable.size) := rfl
    rw [fill, space, List.flatMap_cons, if_pos held, if_pos held, Option.bind_some]
    generalize Writer.putAll _ _ = done
    obtain ⟨after, result⟩ := done
    cases result with
    | ok | error => rfl
  · simp only [if_neg held, Option.bind_none]

theorem buildRequest?_of_lt {callId : UInt16} {methodId : UInt32} {objectId : UInt64} {args : List Encodable}
    (small : requestPrefixSize + total (args.map Encodable.size) < sizeLimit) :
    memory.buildRequest? callId methodId objectId args =
      if memory.holds (requestPrefixSize + total (args.map Encodable.size)) then
        some (Message.buildRequest callId methodId objectId args)
      else none := by
  have front : (requestPart callId methodId objectId).size = requestPrefixSize := rfl
  rw [buildRequest?, fill?_of_lt small, front, Origin.fill_request, Message.buildRequest]
  by_cases held : memory.holds (requestPrefixSize + total (args.map Encodable.size))
  · rw [if_pos held, if_pos held, Option.map_some]
    cases encodePayload (Message.request callId methodId objectId []).bytes args with
    | error error => rfl
    | ok payload =>
      have length : (Message.request callId methodId objectId []).bytes.length = requestPrefixSize := by
        simp [Message.request, Message.bytes, Body.bytes, requestPrefixSize]
      simp only [Except.map, ← length, List.drop_left]
  · rw [if_neg held, if_neg held, Option.map_none]

/-! ### One by one -/

variable {b next : RequestBuilder} {e : Encodable}

theorem arg?_of_error {error : WireError} (failed : b.error = some error) : memory.arg? b e = some b := by
  rw [arg?, failed]

theorem arg?_of_holds (held : memory.holds (b.args.length + e.size)) : memory.arg? b e = some (b.arg e) := by
  cases well : b.error with
  | some error => simp only [arg?, RequestBuilder.arg, well]
  | none =>
    have long : ¬ b.args.length + e.size < b.args.length := by omega
    simp only [arg?, RequestBuilder.arg, well, add?_of_lt (lt_sizeLimit held), zeros?, held, if_true, Option.bind_eq_bind,
      Option.bind_some, if_neg long, List.drop_replicate, Nat.add_sub_cancel_left]
    generalize Writer.putAll _ _ = done
    obtain ⟨after, result⟩ := done
    cases result with
    | ok | error => rfl

theorem foldlM_arg?_of_error {error : WireError} (failed : b.error = some error) (more : List Encodable) :
    more.foldlM memory.arg? b = some b := by
  induction more with
  | nil => rfl
  | cons e rest ih =>
    rw [List.foldlM_cons, arg?_of_error failed]
    exact ih

/-- A sum that wraps around is no way out, as the region would start behind the end of the bytes. -/
theorem arg?_of_not_holds (well : b.error = none) (sized : e.size < sizeLimit)
    (unheld : ¬ memory.holds (b.args.length + e.size)) : memory.arg? b e = none := by
  simp only [arg?, well, add?]
  by_cases small : b.args.length + e.size < sizeLimit
  · simp [if_pos small, zeros?, unheld]
  · rw [if_neg small]
    cases memory.overflow with
    | stops => rfl
    | wraps =>
      simp only [Option.bind_eq_bind, Option.bind_some, zeros?]
      by_cases held : memory.holds ((b.args.length + e.size) % sizeLimit)
      · have short : (b.args.length + e.size) % sizeLimit < b.args.length := by
          rw [Nat.mod_eq_sub_mod (Nat.not_lt.mp small)]
          have least := Nat.mod_le (b.args.length + e.size - sizeLimit) sizeLimit
          omega
        simp only [if_pos held, Option.bind_some, if_pos short]
      · simp only [if_neg held, Option.bind_none]

theorem arg?_eq_some (sized : e.size < sizeLimit) :
    memory.arg? b e = some next ↔ (b.error = none → memory.holds (b.args.length + e.size)) ∧ next = b.arg e := by
  by_cases held : memory.holds (b.args.length + e.size)
  · rw [arg?_of_holds held, Option.some.injEq]
    exact ⟨fun same => ⟨fun _ => held, same.symm⟩, fun outcome => outcome.2.symm⟩
  · cases well : b.error with
    | some error =>
      have kept : b.arg e = b := by rw [RequestBuilder.arg, well]
      rw [arg?_of_error well, kept, Option.some.injEq]
      exact ⟨fun same => ⟨nofun, same.symm⟩, fun outcome => outcome.2.symm⟩
    | none =>
      rw [arg?_of_not_holds well sized held]
      exact ⟨nofun, fun outcome => absurd (outcome.1 rfl) held⟩

theorem build?_of_error {error : WireError} (failed : b.error = some error) : memory.build? b = some b.build := by
  simp only [build?, RequestBuilder.build, failed]

theorem build?_of_lt (well : b.error = none) (small : requestPrefixSize + b.args.length < sizeLimit) :
    memory.build? b = if memory.holds (requestPrefixSize + b.args.length) then some b.build else none := by
  have size : total (([.ofContent b.args.length b.args none] : List Encodable).map Encodable.size) = b.args.length :=
    Nat.add_zero _
  rw [build?, RequestBuilder.build, well]
  simp only [buildRequest?_of_lt (size.symm ▸ small), size, Message.buildRequest, Origin.encodePayload_content]
  rfl

end
end CallWire.Memory
