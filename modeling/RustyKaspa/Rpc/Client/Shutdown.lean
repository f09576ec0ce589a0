import RustyKaspa.Rpc.Client.Session

/-!
# Shutdown, on the whole session

`Lifecycle` proves the handshake on its own; this file reads the results back on the session,
where the tasks' loop bodies are `handle_response` and `remove_expired_requests`.

**`shutdown_handshake`**: once a shutdown call has returned, in every state that follows, both
`*_is_running` flags are cleared and neither task can run its loop body or take its shutdown
arm again; and a shutdown call made after that reads the two cleared flags and returns `Ok`
within two of its own steps (`late_returns`), firing no trigger and waiting on none, whatever
else runs meanwhile.

What the handshake does not give is that the tasks take no step at all after a shutdown call
returns.  `stop_*` skips the handshake when it reads a cleared flag, and a task clears its flag
one step before it fires its response trigger: a call can read the flag in between and return
while the task still has that last step to take
(`receiver_steps_after_shutdown_returns`).
-/

namespace Kaspa

namespace Session

variable {s : Session}

lemma step_receive_of_stopped (h : s.lifecycle.Inv) (hr : s.inner.receiver.isRunning = false)
    (result : StreamResult) : s.step (.receive result) = none := by
  have hi : s.inner.receiver.Inv := h.receiver
  simp [step, Lifecycle.step, lifecycle, Lifecycle.task, Task.work_of_stopped hi hr]

lemma step_receiverShutdown_of_stopped (h : s.lifecycle.Inv)
    (hr : s.inner.receiver.isRunning = false) : s.step .receiverShutdown = none := by
  have hi : s.inner.receiver.Inv := h.receiver
  simp [step, Lifecycle.step, lifecycle, Lifecycle.task, Task.leave_of_stopped hi hr]

lemma step_expire_of_stopped (h : s.lifecycle.Inv) (hr : s.inner.timeout.isRunning = false) :
    s.step .expire = none := by
  have hi : s.inner.timeout.Inv := h.timeout
  simp [step, Lifecycle.step, lifecycle, Lifecycle.task, Task.work_of_stopped hi hr]

lemma step_timeoutShutdown_of_stopped (h : s.lifecycle.Inv)
    (hr : s.inner.timeout.isRunning = false) : s.step .timeoutShutdown = none := by
  have hi : s.inner.timeout.Inv := h.timeout
  simp [step, Lifecycle.step, lifecycle, Lifecycle.task, Task.leave_of_stopped hi hr]

/-- A step of shutdown call `k` that leaves the tasks as they are moves the call and changes
nothing else. -/
lemma step_stop_of_shutdownStep {k : Nat} {p p' : ShutdownPc} (hk : s.shutdowns[k]? = some p)
    (hp : s.lifecycle.shutdownStep p = some (p', s.lifecycle)) :
    s.step (.stop k) = some { s with shutdowns := s.shutdowns.set k p' } := by
  have hk' : s.lifecycle.shutdowns[k]? = some p := hk
  simp only [step, Lifecycle.step, hk', Option.some_bind, hp, Option.map_some']
  rfl

/-- **A late shutdown call returns within the reads it has left**: with both flags cleared, each
of its steps reads a cleared flag and moves on, changing nothing of `Inner`. -/
lemma late_returns {k : Nat} : ∀ (n : Nat) {s : Session} {p : ShutdownPc}, s.lifecycle.Late k →
    s.shutdowns[k]? = some p → p.readsLeft = n →
    ∃ s', s.runFrom (List.replicate n (.stop k)) = some s' ∧
      s'.shutdowns[k]? = some .returned ∧ s'.inner = s.inner
  | 0, s, p, _, hk, hn => ⟨s, rfl, by
      cases p with
      | returned => exact hk
      | _ => simp [ShutdownPc.readsLeft] at hn, rfl⟩
  | n + 1, s, p, hl, hk, hn => by
    obtain ⟨q, hq, hread⟩ := hl.reading
    obtain rfl : q = p := Option.some.inj (hq.symm.trans hk)
    obtain ⟨p', hstep, -, hleft⟩ :=
      Lifecycle.shutdownStep_of_quiet hl.quiet hread (by rintro rfl; cases hn)
    have h₂ := step_stop_of_shutdownStep hk hstep
    obtain ⟨s', hrun, hret, hinner⟩ := late_returns n (hl.step (step_lifecycle h₂))
      (List.getElem?_set_self (List.getElem?_eq_some_iff.mp hk).1) (by omega)
    exact ⟨s', (runFrom_cons h₂ _).trans hrun, hret, hinner⟩

/-- What holds of a session once a shutdown call has returned in it. -/
structure AfterShutdown (s : Session) : Prop where
  /-- In every state any run leads to, both flags are cleared, and neither task can run its
  loop body (no response reaches `handle_response`, no `remove_expired_requests` runs) or take
  its shutdown arm. -/
  stopped : ∀ labels s', s.runFrom labels = some s' →
    s'.inner.receiver.isRunning = false ∧ s'.inner.timeout.isRunning = false ∧
    (∀ result, s'.step (.receive result) = none) ∧ s'.step .receiverShutdown = none ∧
    s'.step .expire = none ∧ s'.step .timeoutShutdown = none
  /-- A shutdown call made now is, under every run, about to read a flag or returned; each of
  its steps changes nothing of `Inner` (it fires no trigger), and within two more of its own
  steps, none of them waiting, it returns `Ok`. -/
  late : ∀ s₁, s.step .shutdown = some s₁ → ∀ labels s', s₁.runFrom labels = some s' →
    ∃ p, s'.shutdowns[s.shutdowns.length]? = some p ∧ p.Reading ∧
      (p ≠ .returned → (s'.step (.stop s.shutdowns.length)).map Session.inner = some s'.inner) ∧
      ∃ n ≤ 2, ∃ s'', s'.runFrom (List.replicate n (.stop s.shutdowns.length)) = some s'' ∧
        s''.shutdowns[s.shutdowns.length]? = some .returned ∧ s''.inner = s'.inner

/-- **Shutdown handshake**: in a reachable session where a shutdown call has returned. -/
theorem shutdown_handshake (hs : s.Reachable) (hr : ShutdownPc.returned ∈ s.shutdowns) :
    s.AfterShutdown := by
  constructor
  · intro labels s' hrun
    obtain ⟨hinv, hr'⟩ := runFrom_lifecycle (P := fun l => l.Inv ∧ ShutdownPc.returned ∈ l.shutdowns)
      (fun _ _ _ h hl => ⟨h.1.step hl, Lifecycle.returned_mem_step h.2 hl⟩) labels
      ⟨hs.lifecycle_inv, hr⟩ hrun
    obtain ⟨hrec, htim⟩ := hinv.flags_of_returned hr'
    exact ⟨hrec, htim, step_receive_of_stopped hinv hrec, step_receiverShutdown_of_stopped hinv hrec,
      step_expire_of_stopped hinv htim, step_timeoutShutdown_of_stopped hinv htim⟩
  · intro s₁ h₁ labels s' hrun
    have hl₁ : s.lifecycle.step .shutdown = some s₁.lifecycle := step_lifecycle h₁
    have hlate := runFrom_lifecycle (P := Lifecycle.Late s.shutdowns.length)
      (fun _ _ _ h hl => h.step hl) labels
      (Lifecycle.late_of_returned hs.lifecycle_inv hr _ hl₁) hrun
    obtain ⟨p, hk, hp⟩ := hlate.reading
    obtain ⟨s'', hrun', hret, hinner⟩ := late_returns p.readsLeft hlate hk rfl
    refine ⟨p, hk, hp, fun hne => ?_, p.readsLeft, p.readsLeft_le, s'', hrun', hret, hinner⟩
    obtain ⟨p', hs', -⟩ := Lifecycle.shutdownStep_of_quiet hlate.quiet hp hne
    rw [step_stop_of_shutdownStep hk hs']
    rfl

end Session

/-! ## A run where the stream ends before the shutdown -/

/-- The stream ends and the receiver clears its flag; then a shutdown call stops the timeout
monitor by the handshake, reads the receiver's flag cleared, and returns. -/
def endOfStreamThenShutdown : List Session.Label :=
  [.receive (.ok none), .receiverExit, .shutdown, .stop 0, .stop 0, .timeoutShutdown,
    .timeoutExit, .timeoutExit, .stop 0, .stop 0]

/-- The session that run reaches. -/
def afterEndOfStreamShutdown : Session :=
  ((Session.start connectedWithoutCapabilities).runFrom endOfStreamThenShutdown).getD
    (Session.start connectedWithoutCapabilities)

theorem shutdown_handshake_after_end_of_stream :
    afterEndOfStreamShutdown.Reachable ∧ ShutdownPc.returned ∈ afterEndOfStreamShutdown.shutdowns ∧
      afterEndOfStreamShutdown.AfterShutdown :=
  have hc : Inner.connect (Channel.new none) (.ok (some getInfoWithoutCapabilities)) =
      .ok connectedWithoutCapabilities := rfl
  have hrun : (Session.start connectedWithoutCapabilities).runFrom endOfStreamThenShutdown =
      some afterEndOfStreamShutdown := rfl
  have hs : afterEndOfStreamShutdown.Reachable := (Session.Reachable.connect hc).runFrom hrun
  have hr : ShutdownPc.returned ∈ afterEndOfStreamShutdown.shutdowns := by decide
  ⟨hs, hr, Session.shutdown_handshake hs hr⟩

/-- In that run the shutdown call has returned while the receiver still has its last step to
take, and it takes it: firing its response trigger. -/
theorem receiver_steps_after_shutdown_returns :
    Inner.connect (Channel.new none) (.ok (some getInfoWithoutCapabilities)) =
        .ok connectedWithoutCapabilities ∧
      (Session.start connectedWithoutCapabilities).runFrom endOfStreamThenShutdown =
        some afterEndOfStreamShutdown ∧
      afterEndOfStreamShutdown.shutdowns = [.returned] ∧
      afterEndOfStreamShutdown.inner.receiver.pc = .stored ∧
      (afterEndOfStreamShutdown.step .receiverExit).map (·.inner.receiver) =
        some { afterEndOfStreamShutdown.inner.receiver with
          shutdown.response := true, pc := .finished } := by
  decide

end Kaspa
