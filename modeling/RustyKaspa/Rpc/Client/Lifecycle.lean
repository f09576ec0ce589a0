import Mathlib.Data.List.Basic

/-!
# The shutdown handshake

`Inner` spawns two tasks, the response receiver and the request-timeout monitor, and stops them
in `Inner::shutdown`.  Each task shares two things with the code that stops it: an `AtomicBool`
`*_is_running`, which `spawn_*` sets and the task clears once it has left its loop, and a
`DuplexTrigger` `*_shutdown`.  `stop_*` reads the flag; if it is set it fires the request
trigger and awaits the response trigger, which the task fires as its very last action, after
clearing the flag.

This file models that handshake on its own: the two tasks, with their flags, triggers and
program counters, and any number of `shutdown` calls interleaved with them and with each other.
The loop body of a task is a single step here (`Task.work`); what it does to the resolver and
the channels is the business of `Client.Session`, which projects onto this machine.

* `Task.stop` is the one definition behind `stop_response_receiver_task` and
  `stop_timeout_monitor`.
* `Lifecycle.Inv` is the invariant: a flag is set exactly while its task is in or leaving its
  loop, a fired response means the task is finished, and a shutdown call past its
  `stop_timeout_monitor` (or returned) has seen that task's flag cleared (both flags).
* **`Lifecycle.Inv.flags_of_returned`**: once any shutdown call has returned, both flags are
  cleared, so neither task can run its loop body again.
* **`Lifecycle.late_of_returned`** and **`Lifecycle.Late.step`**: a shutdown call made after
  another has returned reads two cleared flags and returns, firing no trigger and waiting on
  none, whatever steps are taken meanwhile.
-/

namespace Kaspa

/-- Modelled from the spec: `kaspa_utils::triggers::DuplexTrigger`, missing from the
repository.  Each half is a one-shot latch: once fired it stays fired, and awaiting its listener
returns at once from then on.  `request` is fired by the stopper, `response` by the task. -/
structure DuplexTrigger where
  request : Bool
  response : Bool
  deriving DecidableEq, Repr

/-- `DuplexTrigger::new`. -/
def DuplexTrigger.new : DuplexTrigger := ⟨false, false⟩

/-- Where a task of `Inner` is: not spawned yet, in its `loop`, broken out of it, past
`*_is_running.store(false)`, or past `*_shutdown.response.trigger.trigger()`, its last action. -/
inductive TaskPc
  | unspawned
  | looping
  | exiting
  | stored
  | finished
  deriving DecidableEq, Repr

/-- A task of `Inner` with what it shares with `stop_*`: its flag and its trigger. -/
structure Task where
  isRunning : Bool
  shutdown : DuplexTrigger
  pc : TaskPc
  deriving DecidableEq, Repr

namespace Task

/-- The task fields `Inner::new` sets up: `AtomicBool::new(false)`, `DuplexTrigger::new()`. -/
def new : Task := ⟨false, DuplexTrigger.new, .unspawned⟩

/-- `spawn_*`: `*_is_running.store(true)`, then `tokio::spawn` of the loop. -/
def spawn (t : Task) : Task := { t with isRunning := true, pc := .looping }

/-- One pass through the loop body that does the task's work, `exits` when the body itself
breaks out of the loop (the receiver at the end of the stream). -/
def work (t : Task) (exits : Bool) : Option Task :=
  if t.pc = .looping then some (if exits then { t with pc := .exiting } else t) else none

/-- The `_ = shutdown => break` arm of the task's `select!`, ready once the request fired. -/
def leave (t : Task) : Option Task :=
  if t.pc = .looping ∧ t.shutdown.request = true then some { t with pc := .exiting } else none

/-- The lines after the loop: `*_is_running.store(false)`, then
`*_shutdown.response.trigger.trigger()`. -/
def exit (t : Task) : Option Task :=
  match t.pc with
  | .exiting => some { t with isRunning := false, pc := .stored }
  | .stored => some { t with shutdown.response := true, pc := .finished }
  | _ => none

/-- Where a `stop_*` call is: about to read the flag, about to fire the request trigger, or
awaiting the response trigger. -/
inductive StopPc
  | load
  | trigger
  | await
  deriving DecidableEq, Repr

/-- One step of a `stop_*` call on the task it stops: `none` while it waits, `some (none, _)`
when it returns `Ok(())`, `some (some pc, _)` when it moves on to `pc`. -/
def stop (t : Task) : StopPc → Option (Option StopPc × Task)
  | .load => some (if t.isRunning then some .trigger else none, t)
  | .trigger => some (some .await, { t with shutdown.request := true })
  | .await => if t.shutdown.response then some (none, t) else none

/-- What a task's flag and response trigger say about where it is. -/
structure Inv (t : Task) : Prop where
  running : t.isRunning = true ↔ t.pc = .looping ∨ t.pc = .exiting
  response : t.shutdown.response = true → t.pc = .finished

lemma Inv.spawn {t : Task} (h : t.shutdown.response = false) : t.spawn.Inv :=
  ⟨by simp [Task.spawn], by simp [Task.spawn, h]⟩

lemma Inv.work {t t' : Task} {exits : Bool} (h : t.Inv) (hw : t.work exits = some t') :
    t'.Inv := by
  unfold Task.work at hw
  split_ifs at hw with hl
  · cases hw
    exact ⟨by simp [h.running.mpr (.inl hl)], fun hr => by simp [h.response hr] at hl⟩
  · cases hw
    exact h

lemma Inv.leave {t t' : Task} (h : t.Inv) (hw : t.leave = some t') : t'.Inv := by
  unfold Task.leave at hw
  split_ifs at hw with hl
  cases hw
  exact ⟨by simp [h.running.mpr (.inl hl.1)], fun hr => by simp [h.response hr] at hl⟩

lemma Inv.exit {t t' : Task} (h : t.Inv) (hw : t.exit = some t') : t'.Inv := by
  unfold Task.exit at hw
  cases hp : t.pc <;> simp only [hp] at hw <;> cases hw
  · exact ⟨by simp, fun hr => by simp [h.response hr] at hp⟩
  · exact ⟨by simp [h.running, hp], fun _ => rfl⟩

/-- `stop_*` touches only the request trigger. -/
lemma stop_fields {t t' : Task} {pc : StopPc} {r : Option StopPc} (hs : t.stop pc = some (r, t')) :
    t'.isRunning = t.isRunning ∧ t'.pc = t.pc ∧ t'.shutdown.response = t.shutdown.response := by
  cases pc <;> simp only [Task.stop] at hs
  · cases hs; simp
  · cases hs; simp
  · split_ifs at hs; cases hs; simp

lemma Inv.stop {t t' : Task} {pc : StopPc} {r : Option StopPc} (h : t.Inv)
    (hs : t.stop pc = some (r, t')) : t'.Inv := by
  obtain ⟨hrun, hpc, hresp⟩ := stop_fields hs
  exact ⟨by rw [hrun, hpc]; exact h.running, by rw [hresp, hpc]; exact h.response⟩

/-- **A `stop_*` call returns only once the task's flag is cleared**: it read it cleared, or
it saw the response trigger, which the task fires after clearing it. -/
lemma Inv.stop_returns {t t' : Task} {pc : StopPc} (h : t.Inv) (hs : t.stop pc = some (none, t')) :
    t.isRunning = false := by
  cases pc <;> simp only [Task.stop] at hs
  · split_ifs at hs with hr
    · cases hs
    · simpa using hr
  · cases hs
  · split_ifs at hs with hr
    exact Bool.eq_false_iff.mpr fun hc => by simpa [h.response hr] using h.running.mp hc

/-- A task whose flag is cleared is out of its loop. -/
lemma Inv.not_looping {t : Task} (h : t.Inv) (hr : t.isRunning = false) : t.pc ≠ .looping :=
  fun hp => by simp [h.running.mpr (.inl hp)] at hr

/-- A cleared flag stays cleared: no step of the task sets it. -/
lemma work_of_stopped {t : Task} {exits : Bool} (h : t.Inv) (hr : t.isRunning = false) :
    t.work exits = none := by
  simp [Task.work, h.not_looping hr]

lemma leave_of_stopped {t : Task} (h : t.Inv) (hr : t.isRunning = false) : t.leave = none := by
  simp [Task.leave, h.not_looping hr]

lemma work_pc {t t' : Task} {exits : Bool} (hw : t.work exits = some t') : t.pc = .looping := by
  unfold Task.work at hw
  split_ifs at hw with hl <;> exact hl

lemma work_isRunning {t t' : Task} {exits : Bool} (hw : t.work exits = some t') :
    t'.isRunning = t.isRunning := by
  unfold Task.work at hw
  split_ifs at hw <;> cases hw <;> rfl

lemma leave_isRunning {t t' : Task} (hw : t.leave = some t') : t'.isRunning = t.isRunning := by
  unfold Task.leave at hw
  split_ifs at hw
  cases hw
  rfl

lemma exit_isRunning {t t' : Task} (hr : t.isRunning = false) (hw : t.exit = some t') :
    t'.isRunning = false := by
  unfold Task.exit at hw
  split at hw <;> cases hw
  · rfl
  · exact hr

end Task

/-- Where a call of `Inner::shutdown` is: in `stop_timeout_monitor`, in
`stop_response_receiver_task`, or returned `Ok(())` (neither `stop_*` has an error path). -/
inductive ShutdownPc
  | stopTimeoutMonitor (pc : Task.StopPc)
  | stopResponseReceiverTask (pc : Task.StopPc)
  | returned
  deriving DecidableEq, Repr

/-- Where a shutdown call is while it has only read flags: about to read the monitor's, about
to read the receiver's, or returned. -/
def ShutdownPc.Reading (p : ShutdownPc) : Prop :=
  p = .stopTimeoutMonitor .load ∨ p = .stopResponseReceiverTask .load ∨ p = .returned

/-- How many flags a shutdown call has left to read before it returns. -/
def ShutdownPc.readsLeft : ShutdownPc → Nat
  | .stopTimeoutMonitor _ => 2
  | .stopResponseReceiverTask _ => 1
  | .returned => 0

lemma ShutdownPc.readsLeft_le (p : ShutdownPc) : p.readsLeft ≤ 2 := by
  cases p <;> simp [readsLeft]

/-- The two tasks. -/
inductive Side
  | receiver
  | timeout
  deriving DecidableEq, Repr

/-- The state of the handshake: both tasks, and every shutdown call made so far. -/
structure Lifecycle where
  receiver : Task
  timeout : Task
  shutdowns : List ShutdownPc
  deriving DecidableEq, Repr

namespace Lifecycle

/-- The task on one side. -/
def task (l : Lifecycle) : Side → Task
  | .receiver => l.receiver
  | .timeout => l.timeout

/-- Replace the task on one side. -/
def setTask (l : Lifecycle) : Side → Task → Lifecycle
  | .receiver, t => { l with receiver := t }
  | .timeout, t => { l with timeout := t }

@[simp] lemma setTask_shutdowns (l : Lifecycle) (side : Side) (t : Task) :
    (l.setTask side t).shutdowns = l.shutdowns := by cases side <;> rfl

@[simp] lemma task_setTask (l : Lifecycle) (side side' : Side) (t : Task) :
    (l.setTask side t).task side' = if side' = side then t else l.task side' := by
  cases side <;> cases side' <;> rfl

/-- `stop_timeout_monitor`: `Task.stop` on the timeout monitor. -/
def stopTimeoutMonitor (l : Lifecycle) (pc : Task.StopPc) : Option (Option Task.StopPc × Lifecycle) :=
  (l.timeout.stop pc).map fun r => (r.1, { l with timeout := r.2 })

/-- `stop_response_receiver_task`: `Task.stop` on the response receiver. -/
def stopResponseReceiverTask (l : Lifecycle) (pc : Task.StopPc) :
    Option (Option Task.StopPc × Lifecycle) :=
  (l.receiver.stop pc).map fun r => (r.1, { l with receiver := r.2 })

/-- One step of `Inner::shutdown`: `stop_timeout_monitor().await?`, then
`stop_response_receiver_task().await?`, then `Ok(())`. -/
def shutdownStep (l : Lifecycle) : ShutdownPc → Option (ShutdownPc × Lifecycle)
  | .stopTimeoutMonitor pc => (l.stopTimeoutMonitor pc).map fun r =>
      (r.1.elim (.stopResponseReceiverTask .load) .stopTimeoutMonitor, r.2)
  | .stopResponseReceiverTask pc => (l.stopResponseReceiverTask pc).map fun r =>
      (r.1.elim .returned .stopResponseReceiverTask, r.2)
  | .returned => none

/-- What can happen next: a task runs its loop body, takes its shutdown arm or a step after
its loop; a new shutdown call starts; shutdown call `i` takes a step. -/
inductive Label
  | work (side : Side) (exits : Bool)
  | leave (side : Side)
  | exit (side : Side)
  | shutdown
  | stop (i : Nat)
  deriving DecidableEq, Repr

/-- The guarded step function of the handshake: `none` when the label is not enabled. -/
def step (l : Lifecycle) : Label → Option Lifecycle
  | .work side exits => ((l.task side).work exits).map (l.setTask side)
  | .leave side => (l.task side).leave.map (l.setTask side)
  | .exit side => (l.task side).exit.map (l.setTask side)
  | .shutdown => some { l with shutdowns := l.shutdowns ++ [.stopTimeoutMonitor .load] }
  | .stop i => l.shutdowns[i]?.bind fun pc =>
    (l.shutdownStep pc).map fun r => { r.2 with shutdowns := l.shutdowns.set i r.1 }

/-! ## The invariant -/

/-- What a shutdown call has found out by getting where it is: past `stop_timeout_monitor` it
has seen the monitor's flag cleared, and once returned the receiver's too. -/
def Seen (l : Lifecycle) : ShutdownPc → Prop
  | .stopTimeoutMonitor _ => True
  | .stopResponseReceiverTask _ => l.timeout.isRunning = false
  | .returned => l.timeout.isRunning = false ∧ l.receiver.isRunning = false

/-- `l'` has cleared every flag `l` had cleared. -/
def Quieter (l l' : Lifecycle) : Prop :=
  (l.receiver.isRunning = false → l'.receiver.isRunning = false) ∧
    (l.timeout.isRunning = false → l'.timeout.isRunning = false)

lemma Seen.mono {l l' : Lifecycle} {p : ShutdownPc} (hp : l.Seen p) (hq : Quieter l l') :
    l'.Seen p := by
  cases p with
  | stopTimeoutMonitor _ => trivial
  | stopResponseReceiverTask _ => exact hq.2 hp
  | returned => exact ⟨hq.2 hp.1, hq.1 hp.2⟩

@[simp] lemma seen_withShutdowns (l : Lifecycle) (shutdowns : List ShutdownPc) (p : ShutdownPc) :
    ({ l with shutdowns := shutdowns } : Lifecycle).Seen p ↔ l.Seen p := by
  cases p <;> rfl

/-- The invariant of the handshake. -/
structure Inv (l : Lifecycle) : Prop where
  receiver : l.receiver.Inv
  timeout : l.timeout.Inv
  seen : ∀ p ∈ l.shutdowns, l.Seen p

lemma Inv.task {l : Lifecycle} (h : l.Inv) : ∀ side, (l.task side).Inv
  | .receiver => h.receiver
  | .timeout => h.timeout

/-- Replacing one task by a successor that keeps the task invariant and clears no flag it did
not have cleared keeps the invariant. -/
lemma Inv.setTask {l : Lifecycle} {side : Side} {t : Task} (h : l.Inv) (ht : t.Inv)
    (hq : (l.task side).isRunning = false → t.isRunning = false) : (l.setTask side t).Inv := by
  cases side
  · exact ⟨ht, h.timeout, fun p hp => Seen.mono (h.seen p hp) ⟨hq, id⟩⟩
  · exact ⟨h.receiver, ht, fun p hp => Seen.mono (h.seen p hp) ⟨id, hq⟩⟩

/-- Replacing one task by a successor that clears no flag the task had set keeps the
cleared flags cleared. -/
lemma quieter_setTask {l : Lifecycle} {side : Side} {t : Task}
    (hq : (l.task side).isRunning = false → t.isRunning = false) : Quieter l (l.setTask side t) := by
  cases side
  · exact ⟨hq, id⟩
  · exact ⟨id, hq⟩

/-- The inversion of `shutdownStep`: one `Task.stop` step on the monitor, or one on the
receiver. -/
lemma shutdownStep_cases {l l' : Lifecycle} {pc pc' : ShutdownPc}
    (hs : l.shutdownStep pc = some (pc', l')) :
    (∃ spc r t, pc = .stopTimeoutMonitor spc ∧ l.timeout.stop spc = some (r, t) ∧
      pc' = r.elim (.stopResponseReceiverTask .load) .stopTimeoutMonitor ∧
      l' = { l with timeout := t }) ∨
    (∃ spc r t, pc = .stopResponseReceiverTask spc ∧ l.receiver.stop spc = some (r, t) ∧
      pc' = r.elim .returned .stopResponseReceiverTask ∧ l' = { l with receiver := t }) := by
  cases pc with
  | stopTimeoutMonitor spc =>
    simp only [shutdownStep, stopTimeoutMonitor, Option.map_map, Option.map_eq_some'] at hs
    obtain ⟨⟨r, t⟩, ht, he⟩ := hs
    cases he
    exact .inl ⟨spc, r, t, rfl, ht, rfl, rfl⟩
  | stopResponseReceiverTask spc =>
    simp only [shutdownStep, stopResponseReceiverTask, Option.map_map, Option.map_eq_some'] at hs
    obtain ⟨⟨r, t⟩, ht, he⟩ := hs
    cases he
    exact .inr ⟨spc, r, t, rfl, ht, rfl, rfl⟩
  | returned => cases hs

/-- A shutdown call's step fires at most a request trigger: it sets or clears no flag. -/
lemma shutdownStep_quieter {l l' : Lifecycle} {pc pc' : ShutdownPc}
    (hs : l.shutdownStep pc = some (pc', l')) : Quieter l l' := by
  rcases shutdownStep_cases hs with ⟨_, _, t, -, ht, -, rfl⟩ | ⟨_, _, t, -, ht, -, rfl⟩
  · exact ⟨id, by simp [(Task.stop_fields ht).1]⟩
  · exact ⟨by simp [(Task.stop_fields ht).1], id⟩

/-- One step of a shutdown call: the tasks keep their invariant and what the call has seen at
its new place holds. -/
lemma Inv.shutdownStep {l l' : Lifecycle} {pc pc' : ShutdownPc} (h : l.Inv) (hp : l.Seen pc)
    (hs : l.shutdownStep pc = some (pc', l')) :
    l'.receiver.Inv ∧ l'.timeout.Inv ∧ l'.Seen pc' := by
  rcases shutdownStep_cases hs with ⟨_, r, t, rfl, ht, rfl, rfl⟩ | ⟨_, r, t, rfl, ht, rfl, rfl⟩
  · refine ⟨h.receiver, h.timeout.stop ht, ?_⟩
    cases r with
    | none => simpa [Seen, (Task.stop_fields ht).1] using h.timeout.stop_returns ht
    | some _ => trivial
  · refine ⟨h.receiver.stop ht, h.timeout, ?_⟩
    cases r with
    | none => exact ⟨hp, by simpa [(Task.stop_fields ht).1] using h.receiver.stop_returns ht⟩
    | some _ => exact hp

/-- The inversion of a shutdown call's step. -/
lemma step_stop {l l' : Lifecycle} {i : Nat} (hs : l.step (.stop i) = some l') :
    ∃ pc pc' l₁, l.shutdowns[i]? = some pc ∧ l.shutdownStep pc = some (pc', l₁) ∧
      l' = { l₁ with shutdowns := l.shutdowns.set i pc' } := by
  simp only [step, Option.bind_eq_some, Option.map_eq_some'] at hs
  obtain ⟨pc, hpc, ⟨pc', l₁⟩, hr, rfl⟩ := hs
  exact ⟨pc, pc', l₁, hpc, hr, rfl⟩

/-- **No step sets a flag.** -/
lemma step_quieter {l l' : Lifecycle} {label : Label} (hs : l.step label = some l') :
    Quieter l l' := by
  cases label with
  | work side exits =>
    obtain ⟨t, ht, rfl⟩ := Option.map_eq_some'.mp hs
    exact quieter_setTask (Task.work_isRunning ht).trans
  | leave side =>
    obtain ⟨t, ht, rfl⟩ := Option.map_eq_some'.mp hs
    exact quieter_setTask (Task.leave_isRunning ht).trans
  | exit side =>
    obtain ⟨t, ht, rfl⟩ := Option.map_eq_some'.mp hs
    exact quieter_setTask fun hr => Task.exit_isRunning hr ht
  | shutdown => cases hs; exact ⟨id, id⟩
  | stop i =>
    obtain ⟨pc, pc', l₁, -, hr, rfl⟩ := step_stop hs
    exact (shutdownStep_quieter hr : Quieter l l₁)

/-- **Every step keeps the invariant.** -/
theorem Inv.step {l l' : Lifecycle} {label : Label} (h : l.Inv) (hs : l.step label = some l') :
    l'.Inv := by
  cases label with
  | work side exits =>
    obtain ⟨t, ht, rfl⟩ := Option.map_eq_some'.mp hs
    exact h.setTask ((h.task side).work ht) (Task.work_isRunning ht).trans
  | leave side =>
    obtain ⟨t, ht, rfl⟩ := Option.map_eq_some'.mp hs
    exact h.setTask ((h.task side).leave ht) (Task.leave_isRunning ht).trans
  | exit side =>
    obtain ⟨t, ht, rfl⟩ := Option.map_eq_some'.mp hs
    exact h.setTask ((h.task side).exit ht) (fun hr => Task.exit_isRunning hr ht)
  | shutdown =>
    cases hs
    refine ⟨h.receiver, h.timeout, fun p hp => ?_⟩
    rcases List.mem_append.mp hp with hp | hp
    · exact h.seen p hp
    · rw [List.mem_singleton.mp hp]
      trivial
  | stop i =>
    obtain ⟨pc, pc', l₁, hpc, hr, rfl⟩ := step_stop hs
    obtain ⟨hrec, htim, hseen⟩ := h.shutdownStep (h.seen pc (List.getElem?_mem hpc)) hr
    refine ⟨hrec, htim, fun p hp => ?_⟩
    rw [seen_withShutdowns]
    rcases List.mem_or_eq_of_mem_set hp with hp | rfl
    · exact Seen.mono (h.seen p hp) (shutdownStep_quieter hr)
    · exact hseen

/-- **Once a shutdown call has returned, both flags are cleared.** -/
theorem Inv.flags_of_returned {l : Lifecycle} (h : l.Inv) (hr : ShutdownPc.returned ∈ l.shutdowns) :
    l.receiver.isRunning = false ∧ l.timeout.isRunning = false :=
  (h.seen _ hr).symm

/-- A returned shutdown call stays returned. -/
lemma returned_mem_step {l l' : Lifecycle} {label : Label} (hr : ShutdownPc.returned ∈ l.shutdowns)
    (hs : l.step label = some l') : ShutdownPc.returned ∈ l'.shutdowns := by
  cases label with
  | work side exits | leave side | exit side =>
    obtain ⟨t, -, rfl⟩ := Option.map_eq_some'.mp hs
    simpa using hr
  | shutdown => cases hs; exact List.mem_append_left _ hr
  | stop i =>
    obtain ⟨pc, pc', l₁, hpc, hs', rfl⟩ := step_stop hs
    obtain ⟨j, hj⟩ := List.mem_iff_getElem?.mp hr
    have hij : i ≠ j := by rintro rfl; rw [hj] at hpc; cases hpc; cases hs'
    exact List.getElem?_mem (l := l.shutdowns.set i pc') (n := j) (by rw [List.getElem?_set_ne hij, hj])

/-! ## A shutdown call made after another has returned -/

/-- Both flags cleared. -/
def Quiet (l : Lifecycle) : Prop := l.receiver.isRunning = false ∧ l.timeout.isRunning = false

lemma Quiet.step {l l' : Lifecycle} {label : Label} (hq : l.Quiet) (hs : l.step label = some l') :
    l'.Quiet :=
  ⟨(step_quieter hs).1 hq.1, (step_quieter hs).2 hq.2⟩

/-- **With both flags cleared, a reading shutdown call moves on at once**, to a reading place one
read closer to returning, firing and awaiting nothing: the tasks are left as they are. -/
lemma shutdownStep_of_quiet {l : Lifecycle} {p : ShutdownPc} (hq : l.Quiet) (hp : p.Reading)
    (hr : p ≠ .returned) :
    ∃ p', l.shutdownStep p = some (p', l) ∧ p'.Reading ∧ p'.readsLeft + 1 = p.readsLeft := by
  rcases hp with rfl | rfl | rfl
  · exact ⟨_, by simp [shutdownStep, stopTimeoutMonitor, Task.stop, hq.2], .inr (.inl rfl), rfl⟩
  · exact ⟨_, by simp [shutdownStep, stopResponseReceiverTask, Task.stop, hq.1], .inr (.inr rfl),
      rfl⟩
  · exact absurd rfl hr

/-- Shutdown call `k` is reading, both flags are cleared, and the invariant holds. -/
structure Late (k : Nat) (l : Lifecycle) : Prop where
  inv : l.Inv
  quiet : l.Quiet
  reading : ∃ p, l.shutdowns[k]? = some p ∧ p.Reading

/-- Every step keeps shutdown call `k` late. -/
lemma Late.step {k : Nat} {l l' : Lifecycle} {label : Label} (h : l.Late k)
    (hs : l.step label = some l') : l'.Late k := by
  refine ⟨h.inv.step hs, h.quiet.step hs, ?_⟩
  obtain ⟨p, hk, hp⟩ := h.reading
  cases label with
  | work side exits | leave side | exit side =>
    obtain ⟨t, -, rfl⟩ := Option.map_eq_some'.mp hs
    exact ⟨p, by simpa using hk, hp⟩
  | shutdown =>
    cases hs
    obtain ⟨hlt, -⟩ := List.getElem?_eq_some_iff.mp hk
    exact ⟨p, by rw [List.getElem?_append_left hlt, hk], hp⟩
  | stop i =>
    obtain ⟨pc, pc', l₁, hpc, hr, rfl⟩ := step_stop hs
    by_cases hik : i = k
    · subst hik
      obtain rfl : pc = p := Option.some.inj (hpc.symm.trans hk)
      obtain ⟨p', hp', hread, -⟩ := shutdownStep_of_quiet h.quiet hp (by rintro rfl; cases hr)
      cases hr.symm.trans hp'
      exact ⟨pc', by simp [List.getElem?_set_self (List.getElem?_eq_some_iff.mp hk).1], hread⟩
    · exact ⟨p, by rw [List.getElem?_set_ne hik]; exact hk, hp⟩

/-- A shutdown call made once another has returned starts late. -/
lemma late_of_returned {l : Lifecycle} (h : l.Inv) (hr : ShutdownPc.returned ∈ l.shutdowns) :
    ∀ l', l.step .shutdown = some l' → l'.Late l.shutdowns.length := by
  rintro l' hs
  refine ⟨h.step hs, ?_, ?_⟩ <;> cases hs
  · exact h.flags_of_returned hr
  · exact ⟨_, List.getElem?_concat_length _ _, .inl rfl⟩

end Lifecycle

end Kaspa
