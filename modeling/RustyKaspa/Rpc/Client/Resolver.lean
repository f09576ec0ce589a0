import Mathlib.Data.List.Nodup
import RustyKaspa.Rpc.Messages

/-!
# The resolver

`Inner` matches responses with the calls waiting for them through a `DynResolver`, an
`IdResolver` when the server tags messages with ids and a `QueueResolver` otherwise.  The two
live in `client/resolver/`, which is not part of the repository, so they are modelled from the
spec:

* `register(op, request)` inserts a pending and hands back the receiving end of a one-shot
  channel.  The id-based resolver keeps at most one pending per id: an id already live is an id
  collision, a programmer error it detects and drops, "not silently merged" (`collides`);
* `complete(response)` delivers the response to the matching pending, by id for the id-based
  resolver, and for the queue-based one to the oldest pending of the response's operation and
  distinguishing key (the block hash of a `GetBlock`, as the comment on `Inner` says), and drops
  an unmatched response;
* `reap(now)` removes every pending whose deadline has passed, completing each with a timeout.

A one-shot channel is the index of the call waiting on it (`Pending.caller`), and what a
resolver sends down it is a `Completion`.

What the rest of the development needs is short: registering appends one pending, and nothing
else a resolver does adds one (`handleResponse_sublist`, `removeExpiredRequests_sublist`); so
the id-based resolver never holds two pendings with one id (`IdsUnique`).
-/

namespace Kaspa

/-- Modelled from the spec: a pending call, with the operation, id and distinguishing key of its
request, when it was registered, and the call waiting on its one-shot channel. -/
structure Pending where
  op : RpcApiOps
  id : UInt64
  key : Option RequestKey
  timestamp : Nat
  caller : Nat
  deriving DecidableEq, Repr

/-- Modelled from the spec: what a resolver sends down a pending's one-shot channel. -/
structure Completion where
  caller : Nat
  result : Except Error KaspadResponse
  deriving DecidableEq, Repr

/-- The two resolvers `Inner::new` chooses between. -/
inductive ResolverKind
  | Id
  | Queue
  deriving DecidableEq, Repr

/-- Modelled from the spec: a `DynResolver` and its pendings, oldest first. -/
structure Resolver where
  kind : ResolverKind
  pendings : List Pending
  deriving DecidableEq, Repr

/-- Modelled from the spec: `IdResolver::new`. -/
def IdResolver.new : Resolver := ⟨.Id, []⟩

/-- Modelled from the spec: `QueueResolver::new`. -/
def QueueResolver.new : Resolver := ⟨.Queue, []⟩

namespace Pending

/-- Modelled from the spec: whether a response answers this pending: the same id, or the same
operation and distinguishing key. -/
def isMatching (kind : ResolverKind) (response : KaspadResponse) (self : Pending) : Bool :=
  match kind with
  | .Id => self.id == response.id
  | .Queue => response.op? == some self.op && response.key? == self.key

/-- Modelled from the spec: a pending registered at `timestamp` has timed out once `timeout` has
elapsed. -/
def isTimedOut (timeout now : Nat) (self : Pending) : Bool :=
  decide (self.timestamp + timeout ≤ now)

end Pending

namespace Resolver

/-- Modelled from the spec: whether registering `id` is an id collision, the id-based resolver
already holding a pending with that id. -/
def collides (self : Resolver) (id : UInt64) : Bool :=
  self.kind == .Id && self.pendings.any (·.id == id)

/-- Modelled from the spec: `register_request`, at time `now`, for the call `caller`.  An id
collision is detected and the registration dropped (`none`): the call that drew the id goes no
further. -/
def registerRequest (self : Resolver) (op : RpcApiOps) (request : KaspadRequest)
    (now caller : Nat) : Option Resolver :=
  if self.collides request.id then none
  else some { self with pendings := self.pendings ++ [⟨op, request.id, request.key?, now, caller⟩] }

/-- Modelled from the spec: `handle_response` removes the first matching pending and completes
it with the response; an unmatched response is dropped. -/
def handleResponse (self : Resolver) (response : KaspadResponse) :
    Resolver × Option Completion :=
  match self.pendings.find? (Pending.isMatching self.kind response) with
  | some pending =>
    ({ self with pendings := self.pendings.eraseP (Pending.isMatching self.kind response) },
      some ⟨pending.caller, .ok response⟩)
  | none => (self, none)

/-- Modelled from the spec: `remove_expired_requests` removes the timed-out pendings and
completes each with `Timeout`. -/
def removeExpiredRequests (self : Resolver) (timeout now : Nat) : Resolver × List Completion :=
  ({ self with pendings := self.pendings.filter fun p => !p.isTimedOut timeout now },
    (self.pendings.filter (Pending.isTimedOut timeout now)).map fun p => ⟨p.caller, .error .Timeout⟩)

/-- A registration appends the call's pending, the id-based resolver holding no other pending
with its id. -/
lemma registerRequest_spec {self r : Resolver} {op : RpcApiOps} {request : KaspadRequest}
    {now caller : Nat} (h : self.registerRequest op request now caller = some r) :
    r = { self with pendings := self.pendings ++ [⟨op, request.id, request.key?, now, caller⟩] } ∧
      (self.kind = .Id → ∀ p ∈ self.pendings, p.id ≠ request.id) := by
  unfold registerRequest at h
  split at h
  · cases h
  · rename_i hfree
    cases h
    exact ⟨rfl, fun hk p hp hid => hfree (by simpa [collides, hk] using ⟨p, hp, hid⟩)⟩

lemma registerRequest_pendings {self r : Resolver} {op : RpcApiOps} {request : KaspadRequest}
    {now caller : Nat} (h : self.registerRequest op request now caller = some r) :
    r.pendings = self.pendings ++ [⟨op, request.id, request.key?, now, caller⟩] := by
  rw [(registerRequest_spec h).1]

lemma registerRequest_kind {self r : Resolver} {op : RpcApiOps} {request : KaspadRequest}
    {now caller : Nat} (h : self.registerRequest op request now caller = some r) :
    r.kind = self.kind := by
  rw [(registerRequest_spec h).1]

/-- Handling a response removes at most the pending it completes. -/
lemma handleResponse_sublist (self : Resolver) (response : KaspadResponse) :
    List.Sublist (self.handleResponse response).1.pendings self.pendings := by
  unfold handleResponse
  split
  · exact List.eraseP_sublist _
  · exact List.Sublist.refl _

/-- With one pending per call, removing the first pending a response matches leaves its call no
other pending. -/
lemma caller_not_mem_eraseP {f : Pending → Bool} :
    ∀ {l : List Pending} {p : Pending}, (l.map Pending.caller).Nodup → l.find? f = some p →
      ∀ q ∈ l.eraseP f, q.caller ≠ p.caller
  | [], _, _, hf => by simp at hf
  | a :: l, p, hnd, hf => by
    rw [List.map_cons, List.nodup_cons] at hnd
    by_cases ha : f a
    · rw [List.find?_cons_of_pos _ ha] at hf
      cases hf
      intro q hq heq
      rw [List.eraseP_cons_of_pos ha] at hq
      exact hnd.1 (heq ▸ List.mem_map_of_mem _ hq)
    · rw [List.find?_cons_of_neg _ ha] at hf
      rw [List.eraseP_cons_of_neg ha]
      intro q hq heq
      rcases List.mem_cons.mp hq with rfl | hq
      · exact hnd.1 (heq ▸ List.mem_map_of_mem _ (List.mem_of_find?_eq_some hf))
      · exact caller_not_mem_eraseP hnd.2 hf q hq heq

/-- With one pending per call, handling a response either changes nothing, or removes one
pending and completes its call with the response, leaving that call no pending. -/
lemma handleResponse_cases (self : Resolver) (response : KaspadResponse)
    (hnd : (self.pendings.map Pending.caller).Nodup) :
    self.handleResponse response = (self, none) ∨
      ∃ p ∈ self.pendings, (self.handleResponse response).2 = some ⟨p.caller, .ok response⟩ ∧
        ∀ q ∈ (self.handleResponse response).1.pendings, q.caller ≠ p.caller := by
  unfold handleResponse
  split
  · rename_i p hp
    exact .inr ⟨p, List.mem_of_find?_eq_some hp, rfl, caller_not_mem_eraseP hnd hp⟩
  · exact .inl rfl

/-- A completion goes to the call of a pending the response matches, with the response. -/
lemma handleResponse_completion {self : Resolver} {response : KaspadResponse} {d : Completion}
    (h : (self.handleResponse response).2 = some d) :
    ∃ p ∈ self.pendings, p.isMatching self.kind response ∧ d = ⟨p.caller, .ok response⟩ := by
  unfold handleResponse at h
  split at h
  · rename_i p hp
    cases h
    exact ⟨p, List.mem_of_find?_eq_some hp, List.find?_some hp, rfl⟩
  · cases h

/-- Erasing the first element `f` finds keeps every other element. -/
lemma mem_eraseP_of_find? {f : Pending → Bool} :
    ∀ {l : List Pending} {p q : Pending}, l.find? f = some p → q ∈ l → q ≠ p → q ∈ l.eraseP f
  | [], _, _, hf, _, _ => by simp at hf
  | a :: l, p, q, hf, hq, hne => by
    by_cases ha : f a
    · rw [List.find?_cons_of_pos _ ha] at hf
      cases hf
      rw [List.eraseP_cons_of_pos ha]
      exact (List.mem_cons.mp hq).resolve_left hne
    · rw [List.find?_cons_of_neg _ ha] at hf
      rw [List.eraseP_cons_of_neg ha]
      exact List.mem_cons.mpr ((List.mem_cons.mp hq).imp_right (mem_eraseP_of_find? hf · hne))

/-- The only pending `handle_response` removes is the one whose call it completes. -/
lemma handleResponse_keeps {self : Resolver} {response : KaspadResponse} {q : Pending}
    (hq : q ∈ self.pendings)
    (hd : ∀ d, (self.handleResponse response).2 = some d → d.caller ≠ q.caller) :
    q ∈ (self.handleResponse response).1.pendings := by
  unfold handleResponse at hd ⊢
  split at hd
  · rename_i p hp
    exact mem_eraseP_of_find? hp hq fun h => hd _ rfl (by subst h; rfl)
  · exact hq

@[simp] lemma handleResponse_kind (self : Resolver) (response : KaspadResponse) :
    (self.handleResponse response).1.kind = self.kind := by
  unfold handleResponse
  split <;> rfl

lemma removeExpiredRequests_sublist (self : Resolver) (timeout now : Nat) :
    List.Sublist (self.removeExpiredRequests timeout now).1.pendings self.pendings :=
  List.filter_sublist _

/-- The monitor's body completes each pending past its deadline with a timeout, and nothing
else. -/
lemma mem_removeExpiredRequests {self : Resolver} {timeout now : Nat} {d : Completion} :
    d ∈ (self.removeExpiredRequests timeout now).2 ↔
      ∃ p ∈ self.pendings, p.isTimedOut timeout now ∧ d = ⟨p.caller, .error .Timeout⟩ := by
  simp [removeExpiredRequests, and_assoc, @eq_comm _ d]

/-- With one pending per call, the calls that get a timeout keep no pending. -/
lemma removeExpiredRequests_callers (self : Resolver) (timeout now : Nat)
    (hnd : (self.pendings.map Pending.caller).Nodup) :
    ∀ q ∈ (self.removeExpiredRequests timeout now).1.pendings,
      ∀ c ∈ (self.removeExpiredRequests timeout now).2, q.caller ≠ c.caller := by
  simp only [removeExpiredRequests, List.mem_filter, List.mem_map]
  rintro q ⟨hq, hkeep⟩ c ⟨p, ⟨hp, hexp⟩, rfl⟩ heq
  obtain rfl := List.inj_on_of_nodup_map hnd hq hp heq
  simp [hexp] at hkeep

@[simp] lemma removeExpiredRequests_kind (self : Resolver) (timeout now : Nat) :
    (self.removeExpiredRequests timeout now).1.kind = self.kind := rfl

/-! ## One pending per id -/

/-- The id-based resolver holds at most one pending per id. -/
def IdsUnique (self : Resolver) : Prop := self.kind = .Id → (self.pendings.map Pending.id).Nodup

/-- A registration keeps the ids unique: it refuses an id already live. -/
lemma IdsUnique.registerRequest {self r : Resolver} {op : RpcApiOps} {request : KaspadRequest}
    {now caller : Nat} (h : self.IdsUnique) (hr : self.registerRequest op request now caller = some r) :
    r.IdsUnique := by
  obtain ⟨rfl, hfree⟩ := registerRequest_spec hr
  intro hk
  rw [List.map_append, List.map_singleton]
  refine (h hk).append (List.nodup_singleton _) (List.disjoint_singleton.mpr fun hm => ?_)
  obtain ⟨p, hp, hid⟩ := List.mem_map.mp hm
  exact hfree hk p hp hid

/-- Removing pendings keeps the ids unique. -/
lemma IdsUnique.sublist {self r : Resolver} (h : self.IdsUnique) (hk : r.kind = self.kind)
    (hs : r.pendings.Sublist self.pendings) : r.IdsUnique :=
  fun hid => (hs.map _).nodup (h (hk ▸ hid))

end Resolver

end Kaspa
