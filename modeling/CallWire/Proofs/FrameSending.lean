import CallWire.Proofs.LinkTraffic

/-! What sending leaves on a stream, whatever the calls to write and flush accept or fail with: the whole frame if it
succeeds, nothing of a message over the limit, and otherwise a front part of the frame. -/

namespace CallWire

/-- A way to tell which bytes a sink has accepted. -/
structure ByteSink.Account (σ : Type) [ByteSink σ] (account : σ → Bytes) : Prop where
  accepted : ∀ content sink count next, write content sink = (.accepted count, next) →
    account next = account sink ++ content.take count
  failed : ∀ content sink error next, write content sink = (.failed error, next) → account next = account sink
  flushed : ∀ sink : σ, account (flush sink).2 = account sink

theorem WriteScript.account : ByteSink.Account WriteScript WriteScript.accepted where
  accepted := by
    intro content script count next written
    have written : script.write content = (.accepted count, next) := written
    unfold write at written
    split at written
    · cases written
      rw [List.take_length]
    · cases written
      simp
    · cases written
  failed := by
    intro content script error next written
    have written : script.write content = (.failed error, next) := written
    unfold write at written
    split at written
    · cases written
    · cases written
    · cases written
      rfl
  flushed := by
    intro script
    show script.flush.2.accepted = script.accepted
    unfold flush
    split
    · rfl
    · rfl

/-- What the near end of a link has written is what came to the far end. -/
theorem Link.account : ByteSink.Account Link fun l => l.far.inbox where
  accepted := by
    intro content l count next written
    rcases l.write_cases content with ⟨_, _, _, failed⟩ | ⟨_, failed⟩ | ⟨moved, rest, rfl, _, accepted, _⟩
    · cases failed.symm.trans written
    · cases failed.symm.trans written
    · cases accepted.symm.trans written
      rw [List.take_left]
      rfl
  failed := by
    intro content l error next written
    rcases l.write_cases content with ⟨_, _, _, failed⟩ | ⟨_, failed⟩ | ⟨moved, rest, _, _, accepted, _⟩
    · cases failed.symm.trans written
      exact List.append_nil _
    · cases failed.symm.trans written
      rfl
    · cases accepted.symm.trans written
  flushed := fun _ => rfl

/-- A failure of the stream itself. -/
def ChannelError.IsOfStream : ChannelError → Prop
  | .io _ | .connectionClosed => True
  | _ => False

/-- What an attempt to send some bytes adds to the stream, by its result. -/
inductive Adds (content : Bytes) : Except ChannelError Unit → Bytes → Prop
  | sent : Adds content (.ok ()) (frameOf content)
  | refused {size maximum} : Adds content (.error (.frameTooLarge size maximum)) []
  | torn {error part} (cause : error.IsOfStream) (front : part <+: frameOf content) : Adds content (.error error) part

namespace FrameWriter
variable {σ : Type} [ByteSink σ] {account : σ → Bytes}

theorem push_account (accounts : ByteSink.Account σ account) (calls : Nat) (content : Bytes) (sink : σ) :
    ∃ part, account (push calls content sink).2 = account sink ++ part ∧ part <+: content ∧
      ((push calls content sink).1 = .ok () ∧ part = content ∨
        ∃ error, (push calls content sink).1 = .error error ∧ error.IsOfStream) := by
  fun_induction push calls content sink with
  | case1 calls sink => exact ⟨[], (List.append_nil _).symm, List.prefix_rfl, .inl ⟨rfl, rfl⟩⟩
  | case2 first rest sink => exact ⟨[], (List.append_nil _).symm, List.nil_prefix, .inr ⟨_, rfl, trivial⟩⟩
  | case3 calls content sink some next written =>
    have same := accounts.accepted _ _ _ _ written
    exact ⟨[], same, List.nil_prefix, .inr ⟨_, rfl, trivial⟩⟩
  | case4 calls content sink some count next positive written ih =>
    obtain ⟨part, grown, front, outcome⟩ := ih
    have whole : content.take count ++ content.drop count = content := List.take_append_drop count content
    refine ⟨content.take count ++ part, ?_, ?_, ?_⟩
    · rw [grown, accounts.accepted _ _ _ _ written, List.append_assoc]
    · have joined := (List.prefix_append_right_inj (content.take count)).mpr front
      rwa [whole] at joined
    · exact outcome.imp_left fun ⟨done, all⟩ => ⟨done, by rw [all, whole]⟩
  | case5 calls content sink some error next written again ih =>
    rwa [accounts.failed _ _ _ _ written] at ih
  | case6 calls content sink some error next written fatal =>
    have same := accounts.failed _ _ _ _ written
    exact ⟨[], by rw [same, List.append_nil], List.nil_prefix, .inr ⟨_, rfl, trivial⟩⟩

theorem settle_account (accounts : ByteSink.Account σ account) (calls : Nat) (sink : σ) :
    account (settle calls sink).2 = account sink ∧
      ((settle calls sink).1 = .ok () ∨ ∃ error, (settle calls sink).1 = .error error ∧ error.IsOfStream) := by
  fun_induction settle calls sink with
  | case1 calls sink _ next flushed =>
    have same := accounts.flushed sink
    rw [flushed] at same
    exact ⟨same, .inl rfl⟩
  | case2 sink error next flushed again | case4 calls sink error next flushed fatal =>
    have same := accounts.flushed sink
    rw [flushed] at same
    exact ⟨same, .inr ⟨_, rfl, trivial⟩⟩
  | case3 sink error next flushed again calls ih =>
    have same := accounts.flushed sink
    rw [flushed] at same
    rwa [show account next = account sink from same] at ih

theorem encodeFrame_cases (content : Bytes) : encodeFrame content = .ok (frameOf content) ∨
    encodeFrame content = .error (.frameTooLarge content.length maxFrameLength) := by
  unfold encodeFrame
  split
  · exact .inl rfl
  · exact .inr rfl

/-- A frame that was written but not flushed counts as its own front part. -/
theorem send_adds (accounts : ByteSink.Account σ account) (writer : FrameWriter) (content : Bytes) (sink : σ) :
    ∃ part, account (writer.send content sink).2 = account sink ++ part ∧
      Adds content (writer.send content sink).1 part := by
  unfold send
  split
  · exact ⟨[], (List.append_nil _).symm, .refused⟩
  · rcases encodeFrame_cases content with encoded | encoded
    · obtain ⟨part, grown, front, outcome⟩ :=
        push_account accounts (ByteSink.weight sink + (frameOf content).length) (frameOf content) sink
      rw [encoded]
      simp only
      generalize push (ByteSink.weight sink + (frameOf content).length) (frameOf content) sink = pushed at *
      obtain ⟨result, next⟩ := pushed
      obtain ⟨rfl, rfl⟩ | ⟨error, rfl, cause⟩ := outcome
      · obtain ⟨same, settled⟩ := settle_account accounts (ByteSink.weight next) next
        refine ⟨frameOf content, same.trans grown, ?_⟩
        show Adds content (settle (ByteSink.weight next) next).1 (frameOf content)
        obtain sent | ⟨error, failed, cause⟩ := settled
        · rw [sent]
          exact .sent
        · rw [failed]
          exact .torn cause List.prefix_rfl
      · exact ⟨part, grown, .torn cause front⟩
    · rw [encoded]
      exact ⟨[], (List.append_nil _).symm, .refused⟩

end FrameWriter
end CallWire
