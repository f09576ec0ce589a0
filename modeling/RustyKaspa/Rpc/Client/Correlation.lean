import RustyKaspa.Rpc.Client.Session

/-!
# Responses reach the calls they answer

The resolver is there to correlate: the id-based resolver hands a response to the pending with
the same id, the queue-based one to the oldest pending of the response's operation, and either
sends it down the one-shot channel of the call that registered that pending.  Calls run
concurrently with the receiver, the timeout monitor and each other, so whether every call gets
an answer to its own request is a question about every interleaving.

**`responses_answer_calls`**: in every reachable session, a response in a call's one-shot
channel, and a response a call returned, carries the call's id when the server tags messages
with ids (`handle_message_id`), and is a response of the call's operation when it does not.

The invariant behind it, `Correlated`, says that each pending carries the operation and id of the
call it belongs to, and that every response in a call's channel or returned by it answers the
call.  Every step moves each call to one it `Keeps`: the same operation and id, a
channel that gains nothing but an error or an answer, and a result taken from the channel;
`Correlated.transfer` turns that into the invariant.
-/

namespace Kaspa

/-- A response answers a call when it carries the call's id (id-based resolver) or is a response
of the call's operation (queue-based resolver). -/
def Call.isAnsweredBy (kind : ResolverKind) (response : KaspadResponse) (c : Call) : Bool :=
  match kind with
  | .Id => c.id == response.id
  | .Queue => response.op? == some c.op

lemma Call.isAnsweredBy_congr {kind : ResolverKind} {response : KaspadResponse} {c c' : Call}
    (hop : c'.op = c.op) (hid : c'.id = c.id) :
    c'.isAnsweredBy kind response = c.isAnsweredBy kind response := by
  cases kind <;> simp [Call.isAnsweredBy, hop, hid]

/-- What answering means for the resolver `Inner::new` picks from `handle_message_id`. -/
lemma Call.isAnsweredBy_flag {flag : Bool} {response : KaspadResponse} {c : Call}
    (h : c.isAnsweredBy (if flag then .Id else .Queue) response) :
    if flag then response.id = c.id else response.op? = some c.op := by
  split_ifs at h ⊢
  · exact (beq_iff_eq.mp h).symm
  · exact beq_iff_eq.mp h

/-- A response matching a pending answers the call the pending carries the operation and id
of. -/
lemma Pending.isAnsweredBy_of_isMatching {kind : ResolverKind} {response : KaspadResponse}
    {p : Pending} {c : Call} (hop : c.op = p.op) (hid : c.id = p.id)
    (h : p.isMatching kind response) : c.isAnsweredBy kind response := by
  cases kind <;> simp only [Pending.isMatching, Call.isAnsweredBy, Bool.and_eq_true, beq_iff_eq] at h ⊢
  · exact hid ▸ h
  · exact hop ▸ h.1

/-- A response a call holds: in its one-shot channel, or as its result. -/
def Call.Holds (c : Call) (response : KaspadResponse) : Prop :=
  c.inbox = some (.ok response) ∨ c.pc = .returned (.ok response)

/-- `c'` is what call `c` may become: the same operation and id, and any response it holds it
already held, or it answers the call. -/
def Call.Keeps (kind : ResolverKind) (c c' : Call) : Prop :=
  c'.op = c.op ∧ c'.id = c.id ∧
    ∀ response, c'.Holds response → c.Holds response ∨ c.isAnsweredBy kind response

lemma Call.Keeps.refl (kind : ResolverKind) (c : Call) : Call.Keeps kind c c :=
  ⟨rfl, rfl, fun _ h => .inl h⟩

lemma Call.Keeps.trans {kind : ResolverKind} {c₁ c₂ c₃ : Call} (h : Call.Keeps kind c₁ c₂)
    (h' : Call.Keeps kind c₂ c₃) : Call.Keeps kind c₁ c₃ := by
  refine ⟨h'.1.trans h.1, h'.2.1.trans h.2.1, fun r hr => ?_⟩
  rcases h'.2.2 r hr with hr | hr
  · exact h.2.2 r hr
  · exact .inr ((Call.isAnsweredBy_congr h.1 h.2.1).symm.trans hr)

namespace Session

variable {s s' : Session}

/-- Moving a call to another point of its code keeps it, when a response it returns is one it
read from its channel. -/
lemma Call.Keeps.move (kind : ResolverKind) (c : Call) {pc : CallPc}
    (hpc : ∀ response, pc = .returned (.ok response) → c.inbox = some (.ok response)) :
    Call.Keeps kind c { c with pc := pc } :=
  ⟨rfl, rfl, fun r hr => .inl (hr.elim .inl fun h => .inl (hpc r h))⟩

/-- A completion keeps every call, when a response it carries answers the call it goes to. -/
lemma deliver_keeps {kind : ResolverKind} {calls : List Call} {d : Completion}
    (hd : ∀ c r, calls[d.caller]? = some c → d.result = .ok r → c.isAnsweredBy kind r)
    (j : Nat) (c' : Call) (h : (deliver calls d)[j]? = some c') :
    ∃ c, calls[j]? = some c ∧ Call.Keeps kind c c' := by
  rw [getElem?_deliver] at h
  obtain ⟨c, hc, rfl⟩ := Option.map_eq_some'.mp h
  refine ⟨c, hc, ?_⟩
  split
  · rename_i hj
    subst hj
    exact ⟨rfl, rfl, fun r hr =>
      hr.elim (fun h => .inr (hd c r hc (by simpa using h))) fun h => .inl (.inr h)⟩
  · exact Call.Keeps.refl kind c

/-- Timeouts keep every call. -/
lemma foldl_deliver_keeps (kind : ResolverKind) :
    ∀ {cs : List Completion} {calls : List Call}, (∀ d ∈ cs, ∃ e, d.result = .error e) →
      ∀ (j : Nat) (c' : Call), (cs.foldl deliver calls)[j]? = some c' →
        ∃ c, calls[j]? = some c ∧ Call.Keeps kind c c'
  | [], _, _, _, c', h => ⟨c', h, Call.Keeps.refl kind c'⟩
  | d :: _, calls, hcs, j, c', h => by
    obtain ⟨c₁, h₁, hk⟩ := foldl_deliver_keeps kind
      (fun d' hd' => hcs d' (List.mem_cons_of_mem _ hd')) j c' h
    obtain ⟨e, he⟩ := hcs d (List.mem_cons_self _ _)
    have hd : ∃ c, calls[j]? = some c ∧ Call.Keeps kind c c₁ :=
      deliver_keeps (fun _ _ _ h => by simp [he] at h) j c₁ h₁
    obtain ⟨c, hc, hk'⟩ := hd
    exact ⟨c, hc, hk'.trans hk⟩

/-- After element `i` of a list is replaced by `x`, an element is `x` at `i` or what it was. -/
lemma eq_of_getElem?_set {α : Type} {l : List α} {i j : Nat} {x y : α}
    (h : (l.set i x)[j]? = some y) : (i = j ∧ y = x) ∨ l[j]? = some y := by
  rw [List.getElem?_set] at h
  split at h
  · split at h
    · exact .inl ⟨‹_›, (Option.some.inj h).symm⟩
    · cases h
  · exact .inr h

/-! ## The invariant -/

/-- The calls and the pendings agree on who asked what. -/
structure Correlated (s : Session) : Prop where
  /-- Each pending carries the operation and id of the call it belongs to. -/
  pending : ∀ p ∈ s.inner.resolver.pendings,
    ∃ c, s.calls[p.caller]? = some c ∧ c.op = p.op ∧ c.id = p.id
  /-- A response a call holds answers the call. -/
  answered : ∀ (i : Nat) (c : Call) (response : KaspadResponse), s.calls[i]? = some c →
    c.Holds response → c.isAnsweredBy s.inner.resolver.kind response

/-- A step keeps the correlation when it keeps the resolver's kind and no call is lost, each call
after it keeps the call of the same number or is a new call holding nothing, and each pending
after it is an old one or carries its call's operation and id. -/
lemma Correlated.transfer (h : s.Correlated)
    (hkind : s'.inner.resolver.kind = s.inner.resolver.kind)
    (hlen : s.calls.length ≤ s'.calls.length)
    (hcalls : ∀ (j : Nat) (c' : Call), s'.calls[j]? = some c' →
      (∃ c, s.calls[j]? = some c ∧ Call.Keeps s.inner.resolver.kind c c') ∨
        (s.calls[j]? = none ∧ ∀ r, ¬ c'.Holds r))
    (hpend : ∀ p ∈ s'.inner.resolver.pendings, p ∈ s.inner.resolver.pendings ∨
      ∃ c, s'.calls[p.caller]? = some c ∧ c.op = p.op ∧ c.id = p.id) :
    s'.Correlated := by
  refine ⟨fun p hp => (hpend p hp).elim (fun hp => ?_) id, fun j c' r hc' hr => ?_⟩
  · obtain ⟨c, hc, hop, hid⟩ := h.pending p hp
    have hlt : p.caller < s'.calls.length := (List.getElem?_eq_some_iff.mp hc).1.trans_le hlen
    obtain ⟨c', hc'⟩ : ∃ c', s'.calls[p.caller]? = some c' := ⟨_, List.getElem?_eq_getElem hlt⟩
    rcases hcalls _ c' hc' with ⟨c₀, hc₀, hk⟩ | ⟨hnone, -⟩
    · obtain rfl : c₀ = c := Option.some.inj (hc₀.symm.trans hc)
      exact ⟨c', hc', hk.1.trans hop, hk.2.1.trans hid⟩
    · simp [hc] at hnone
  · rw [hkind]
    rcases hcalls j c' hc' with ⟨c, hc, hk⟩ | ⟨-, hno⟩
    · rw [Call.isAnsweredBy_congr hk.1 hk.2.1]
      exact (hk.2.2 r hr).elim (h.answered j c r hc) id
    · exact absurd hr (hno r)

/-- Replacing call `i` by one it keeps, the resolver untouched, keeps the correlation. -/
lemma Correlated.set (h : s.Correlated) {i : Nat} {c c' : Call}
    (hres : s'.inner.resolver = s.inner.resolver) (hc : s.calls[i]? = some c)
    (hcalls : s'.calls = s.calls.set i c') (hk : Call.Keeps s.inner.resolver.kind c c') :
    s'.Correlated := by
  refine h.transfer (by rw [hres]) (by simp [hcalls]) (fun j d' hd' => .inl ?_)
    fun p hp => .inl (by rwa [hres] at hp)
  rw [hcalls] at hd'
  rcases eq_of_getElem?_set hd' with ⟨rfl, rfl⟩ | hd'
  · exact ⟨c, hc, hk⟩
  · exact ⟨d', hd', Call.Keeps.refl _ d'⟩

/-- Adding a call that holds nothing. -/
lemma keeps_append {kind : ResolverKind} {c' : Call} (hno : ∀ r, ¬ c'.Holds r)
    (hcalls : s'.calls = s.calls ++ [c']) (j : Nat) (d' : Call) (hd' : s'.calls[j]? = some d') :
    (∃ d, s.calls[j]? = some d ∧ Call.Keeps kind d d') ∨ (s.calls[j]? = none ∧ ∀ r, ¬ d'.Holds r) := by
  rw [hcalls] at hd'
  rcases lt_or_ge j s.calls.length with hlt | hge
  · rw [List.getElem?_append_left hlt] at hd'
    exact .inl ⟨d', hd', Call.Keeps.refl kind d'⟩
  · rw [List.getElem?_append_right hge] at hd'
    obtain rfl : d' = c' := List.mem_singleton.mp (List.getElem?_mem hd')
    exact .inr ⟨List.getElem?_eq_none hge, hno⟩

/-- No step changes the kind of the resolver. -/
lemma StepKind.resolver_kind {label : Label} (h : StepKind s label s') :
    s'.inner.resolver.kind = s.inner.resolver.kind := by
  cases h with
  | frame hres | sent _ _ _ _ _ hres | sendFailed _ _ _ _ _ hres | resumed _ _ _ _ _ _ hres =>
    rw [hres]
  | call _ _ _ _ _ hr hres => rw [hres, Inner.callStart_kind hr]
  | handled _ _ hres => rw [hres, Inner.handleResponse_kind]
  | expired _ hres => rw [hres, Resolver.removeExpiredRequests_kind]

/-- **Every step keeps the correlation.** -/
theorem Correlated.step (h : s.Correlated) {label : Label} (hs : s.step label = some s') :
    s'.Correlated := by
  have hkind := (step_kind hs).resolver_kind
  cases step_kind hs with
  | frame hres hcalls _ =>
    refine h.transfer hkind (by rw [hcalls]) (fun j c' hc' => .inl ⟨c', by rwa [hcalls] at hc',
      Call.Keeps.refl _ c'⟩) fun p hp => .inl (by rwa [hres] at hp)
  | call op request id _ r hstart hres hcalls _ =>
    rcases (Inner.callStart_spec hstart).2 with ⟨-, hreg, hpc⟩ | ⟨-, hr, hpc⟩ <;> rw [hpc] at hcalls
    · refine h.transfer hkind (by simp [hcalls]) (keeps_append (by simp [Call.Holds]) hcalls)
        fun p hp => ?_
      rw [hres, Resolver.registerRequest_pendings hreg, List.mem_append, List.mem_singleton] at hp
      rcases hp with hp | rfl
      · exact .inl hp
      · exact .inr ⟨_, by rw [hcalls]; exact List.getElem?_concat_length .., rfl, rfl⟩
    · exact h.transfer hkind (by simp [hcalls]) (keeps_append (by simp [Call.Holds]) hcalls)
        fun p hp => .inl (by rwa [hres, hr] at hp)
  | sent i c request hc hpc hres hcalls _ =>
    exact h.set hres hc hcalls (Call.Keeps.move _ c fun _ h => by cases h)
  | sendFailed i c request hc hpc hres hcalls _ =>
    exact h.set hres hc hcalls (Call.Keeps.move _ c fun _ h => by simp at h)
  | resumed i c result hc hpc hin hres hcalls _ =>
    exact h.set hres hc hcalls (Call.Keeps.move _ c fun _ h => by cases h; exact hin)
  | handled response _ hres hcalls _ =>
    have hsub := Inner.handleResponse_pendings s.inner response
    refine h.transfer hkind ?_ (fun j c' hc' => ?_)
      fun p hp => .inl (hsub.subset (by rwa [hres] at hp))
    · rw [hcalls]; cases (s.inner.handleResponse response).2 <;> simp
    · rw [hcalls] at hc'
      cases hd : (s.inner.handleResponse response).2 with
      | none => rw [hd] at hc'; exact .inl ⟨c', hc', Call.Keeps.refl _ c'⟩
      | some d =>
        rw [hd] at hc'
        obtain ⟨p, hp, hm, rfl⟩ := Inner.handleResponse_completion hd
        obtain ⟨c, hc, hop, hid⟩ := h.pending p hp
        refine .inl (deliver_keeps (fun c₀ r hc₀ hr => ?_) j c' hc')
        obtain rfl : c₀ = c := Option.some.inj (hc₀.symm.trans hc)
        cases hr
        exact Pending.isAnsweredBy_of_isMatching hop hid hm
  | expired _ hres hcalls _ =>
    refine h.transfer hkind (by simp [hcalls]) (fun j c' hc' => .inl ?_)
      fun p hp => .inl ((Resolver.removeExpiredRequests_sublist _ _ _).subset (by rwa [hres] at hp))
    rw [hcalls] at hc'
    refine foldl_deliver_keeps _ ?_ j c' hc'
    simp only [Resolver.removeExpiredRequests, List.mem_map]
    rintro d ⟨p, -, rfl⟩
    exact ⟨_, rfl⟩

lemma Reachable.correlated (hs : s.Reachable) : s.Correlated := by
  induction hs with
  | connect hc => exact ⟨by simp [start, Inner.connect_pendings hc], fun _ _ _ h => by cases h⟩
  | step _ h ih => exact ih.step h

/-- The resolver follows what the server advertised. -/
lemma Reachable.kind (hs : s.Reachable) :
    s.inner.resolver.kind = if s.inner.handleMessageId then .Id else .Queue := by
  induction hs with
  | connect hc => exact Inner.connect_kind hc
  | step _ h ih => rw [(step_kind h).resolver_kind, (step_flags h).2, ih]

/-- **Responses reach the calls they answer.**  In every reachable session, a response in a
call's one-shot channel, or one the call returned, carries the call's id when the server tags
messages with ids, and is a response of the call's operation when it does not. -/
theorem responses_answer_calls (hs : s.Reachable) {i : Nat} {c : Call} {response : KaspadResponse}
    (hc : s.calls[i]? = some c) (hr : c.Holds response) :
    if s.inner.handleMessageId then response.id = c.id else response.op? = some c.op := by
  have ha := hs.correlated.answered i c response hc hr
  rw [hs.kind] at ha
  exact Call.isAnsweredBy_flag ha

/-- Without message ids, a `Ping` call is answered by the next `Ping` response, whatever its id. -/
example : ((start connectedWithoutCapabilities).runFrom
      [.call .Ping ⟨0, some (.Call .Ping none)⟩ 7, .send 0, .receive (.ok (some ⟨9, some (.Response .Ping none)⟩)),
        .resume 0]).map (·.calls) =
    some [⟨.Ping, 7, .returned (.ok ⟨9, some (.Response .Ping none)⟩), some (.ok ⟨9, some (.Response .Ping none)⟩)⟩] := by
  decide

/-- A `Ping` response, with an id the server chose. -/
def pingResponse : KaspadResponse := ⟨9, some (.Response .Ping none)⟩

/-- A `Ping` is called with id 7 and sent, and a `Ping` response arrives. -/
def pingAnswered : List Label :=
  [.call .Ping ⟨0, some (.Call .Ping none)⟩ 7, .send 0, .receive (.ok (some pingResponse))]

/-- The session that run reaches. -/
def afterPingAnswered : Session :=
  ((start connectedWithoutCapabilities).runFrom pingAnswered).getD (start connectedWithoutCapabilities)

lemma connectedWithoutCapabilities_reachable : (start connectedWithoutCapabilities).Reachable :=
  .connect (show Inner.connect (Channel.new none) (.ok (some getInfoWithoutCapabilities)) =
    .ok connectedWithoutCapabilities from rfl)

lemma afterPingAnswered_reachable : afterPingAnswered.Reachable :=
  connectedWithoutCapabilities_reachable.runFrom
    (show (start connectedWithoutCapabilities).runFrom pingAnswered = some afterPingAnswered from rfl)

theorem responses_answer_calls_after_ping :
    afterPingAnswered.Reachable ∧
      afterPingAnswered.calls[0]? = some ⟨.Ping, 7, .awaiting, some (.ok pingResponse)⟩ ∧
      (if afterPingAnswered.inner.handleMessageId then pingResponse.id = 7
        else pingResponse.op? = some .Ping) :=
  ⟨afterPingAnswered_reachable, rfl,
    responses_answer_calls afterPingAnswered_reachable (i := 0) rfl (.inl rfl)⟩

end Session

end Kaspa
