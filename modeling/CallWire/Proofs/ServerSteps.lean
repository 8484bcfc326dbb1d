import CallWire.Proofs.AttendedPeer
import CallWire.Proofs.EchoService

/-! The server step by step. A step is one of its session, or what the server does between two sessions; however long the
server goes on without a break, it makes such steps. -/

namespace CallWire

namespace Session
variable {ρ : Type}

/-- The session with a record of what was asked in it. -/
def recorded (session : Session ρ) (asked : List Message) : Session (ρ × List Message) :=
  ⟨session.channel, (session.memory, asked), session.phase⟩

theorem serve_recorded (handler : Handler ρ) (session : Session ρ) (asked : List Message) (c : Connection) (m : Message)
    (host : Host) : ∃ asked', (session.recorded asked).serve handler.recording c m host =
      ((session.serve handler c m host).1.recorded asked', (session.serve handler c m host).2) := by
  unfold serve
  split
  · refine ⟨asked ++ [m], ?_⟩
    dsimp only [Handler.recording, recorded]
    split
    · rfl
    · split
      · rfl
      · rfl
  · exact ⟨asked, rfl⟩

/-- The record makes no difference. -/
theorem step_recorded (handler : Handler ρ) (session : Session ρ) (asked : List Message) (host : Host) :
    ∃ asked', (session.recorded asked).step handler.recording host =
      ((session.step handler host).1, (session.step handler host).2.1.recorded asked', (session.step handler host).2.2) := by
  obtain ⟨channel, memory, phase⟩ := session
  cases phase with
  | reading =>
    cases established : channel.established with
    | error error =>
      refine ⟨asked, ?_⟩
      simp only [step, recorded, established]
    | ok c =>
      rcases received : c.readMessage host with ⟨outcome, c', after⟩
      simp only [step, recorded, established, readNext, received]
      rcases outcome with (error | _ | m) | _
      · exact ⟨asked, rfl⟩
      · exact ⟨asked, rfl⟩
      · obtain ⟨asked', served⟩ := serve_recorded handler ⟨channel.setConnection c', memory, .reading⟩ asked c' m after
        exact ⟨asked', congrArg (Prod.mk Pace.moves) served⟩
      · exact ⟨asked, rfl⟩
  | arriving =>
    refine ⟨asked, ?_⟩
    simp only [step, recorded, arrive]
    rcases channel.state with c | ⟨l, _ | c⟩ | _
    · rfl
    · dsimp only
      rcases host.accept l with ⟨_ | s, after⟩
      · rfl
      · rfl
    · rfl
    · rfl
  | attaching s =>
    refine ⟨asked, ?_⟩
    simp only [step, recorded, attach]
    split
    · rfl
    · rfl
  | checking | leaving | detaching | closing | failing | finished => exact ⟨asked, rfl⟩

variable {handler : Handler ρ} {session next : Session ρ} {host after : Host}

theorem run_done {result : Except ChannelError Unit}
    (advanced : session.advance handler (session.stepBound host) host = (next, after)) (phase : next.phase = .finished result) :
    session.run handler host = (.done result, next, after) := by
  simp only [run, advanced, phase]

theorem run_waits (advanced : session.advance handler (session.stepBound host) host = (next, after))
    (unfinished : ∀ result, next.phase ≠ .finished result) : session.run handler host = (.waiting, next, after) := by
  unfold run
  rw [advanced]
  dsimp only
  split
  · exact absurd ‹_› (unfinished _)
  · rfl

end Session

namespace Server

def step (server : Server) (host : Host) : Server × Host :=
  if server.ended.isSome then (server, host)
  else
    match server.session.phase with
    | .finished result => server.afterSession result host
    | _ =>
      let (_, session, host) := server.session.step echoHandler host
      ({ server with session }, host)

def steps (count : Nat) : Server × Host → Server × Host := (fun (server, host) => server.step host)^[count]

variable {server : Server} {host : Host}

theorem steps_succ (count : Nat) (start : Server × Host) :
    steps (count + 1) start = (steps count start).1.step (steps count start).2 := Function.iterate_succ_apply' ..

theorem steps_add (first second : Nat) (start : Server × Host) :
    steps (first + second) start = steps second (steps first start) := by
  rw [Nat.add_comm]
  exact Function.iterate_add_apply ..

theorem step_of_ended (ended : server.ended.isSome) : server.step host = (server, host) := if_pos ended

theorem step_of_finished (going : server.ended = none) {result : Except ChannelError Unit}
    (phase : server.session.phase = .finished result) : server.step host = server.afterSession result host := by
  simp [step, going, phase]

theorem step_of_session (going : server.ended = none) (unfinished : ∀ result, server.session.phase ≠ .finished result) :
    server.step host =
      ({ server with session := (server.session.step echoHandler host).2.1 }, (server.session.step echoHandler host).2.2) := by
  unfold step
  rw [if_neg (by simp [going])]
  split
  · exact absurd ‹_› (unfinished _)
  · rfl

/-- A session that goes on for a while takes steps of the server, and if it is not at its end then, it took one at least. -/
theorem session_steps (going : server.ended = none) (count : Nat) :
    ∃ n, steps n (server, host) =
        ({ server with session := (server.session.advance echoHandler count host).1 },
          (server.session.advance echoHandler count host).2) ∧
      (0 < count → (∀ result, (server.session.advance echoHandler count host).1.phase ≠ .finished result) → 0 < n) := by
  induction count generalizing server host with
  | zero => exact ⟨0, rfl, fun none => absurd none (Nat.lt_irrefl 0)⟩
  | succ count ih =>
    by_cases atEnd : ∃ result, server.session.phase = .finished result
    · obtain ⟨result, phase⟩ := atEnd
      have stays : server.session.advance echoHandler (count + 1) host = (server.session, host) := by
        simp only [Session.advance, Session.step, phase]
      rw [stays]
      exact ⟨0, rfl, fun _ unfinished => absurd phase (unfinished result)⟩
    · have first := @step_of_session server host going fun result phase => atEnd ⟨result, phase⟩
      rcases stepped : server.session.step echoHandler host with ⟨pace, next, after⟩
      rw [stepped] at first
      simp only [Session.advance, stepped]
      cases pace with
      | waits => exact ⟨1, first, fun _ _ => Nat.one_pos⟩
      | moves =>
        obtain ⟨n, reached, -⟩ := @ih { server with session := next } after going
        refine ⟨1 + n, ?_, fun _ _ => Nat.lt_of_lt_of_le Nat.one_pos (Nat.le_add_right 1 n)⟩
        rw [steps_add, show steps 1 (server, host) = _ from first, reached]

/-- Serving until there is nothing to do is to take steps, one at least. -/
theorem advance_eq_steps (sessions : Nat) :
    ∃ n, server.advance sessions host = steps n (server, host) ∧ (0 < sessions → 0 < n) := by
  induction sessions generalizing server host with
  | zero => exact ⟨0, rfl, id⟩
  | succ sessions ih =>
    by_cases ended : server.ended.isSome
    · refine ⟨1, ?_, fun _ => Nat.one_pos⟩
      rw [advance, if_pos ended]
      exact (step_of_ended ended).symm
    · have going : server.ended = none := by simpa using ended
      have positive : 0 < server.session.stepBound host := Nat.lt_of_lt_of_le (by decide) (Nat.le_add_left 16 _)
      obtain ⟨n, reached, some⟩ := @session_steps server host going (server.session.stepBound host)
      rcases advanced : server.session.advance echoHandler (server.session.stepBound host) host with ⟨session, after⟩
      rw [advanced] at reached some
      rw [advance, if_neg ended]
      by_cases atEnd : ∃ result, session.phase = .finished result
      · obtain ⟨result, phase⟩ := atEnd
        let later : Server := { server with session }
        have next : later.step after = later.afterSession result after := @step_of_finished later after going result phase
        obtain ⟨m, onwards, -⟩ := @ih (later.step after).1 (later.step after).2
        refine ⟨n + 1 + m, ?_, fun _ => by omega⟩
        rw [Session.run_done advanced phase, steps_add, steps_succ, reached]
        rw [next] at onwards ⊢
        exact onwards
      · have unfinished : ∀ result, session.phase ≠ .finished result := fun result phase => atEnd ⟨result, phase⟩
        refine ⟨n, ?_, fun _ => some positive unfinished⟩
        rw [Session.run_waits advanced unfinished]
        exact reached.symm

theorem run_eq_steps (server : Server) (host : Host) : ∃ n, server.run host = steps (n + 1) (server, host) := by
  obtain ⟨n, same, some⟩ := @advance_eq_steps server host (host.links.length + 2)
  obtain ⟨m, rfl⟩ := Nat.exists_eq_succ_of_ne_zero (Nat.ne_of_gt (some (Nat.succ_pos _)))
  exact ⟨m, same⟩

end Server
end CallWire
