import Mathlib.Data.List.Basic

/-!
# Consensus notifications and the per-listener filters

`consensus/core/src/notification.rs` defines the nine-variant `Notification` and its
`NotificationTrait` implementation: three filters, one per kind of subscription, that a
notifier applies before handing a notification to a listener.

* `applyOverallSubscription` passes a notification through iff the subscription is active.
* `applyVirtualSelectedParentChainChangedSubscription` also drops the accepted transaction
  ids of a chain-changed notification when the listener did not ask for them.
* `applyUtxosChangedSubscription` passes everything through: address filtering is left to the
  consumer.

The subscriptions live in `kaspa_notify`, outside this repository; they are modelled from the
spec's subscription record `{ active, filter }`.  The payloads the filters never read (the
block of `BlockAdded`, the UTXO diff of `UtxosChanged`) are type parameters, so every result
here holds whatever they are.

**`notification_filters_contract`** collects what the filters do on every notification and
every subscription: the value they return, that a result keeps the event type, and that
filtering twice with the same subscription changes nothing.
-/

namespace Kaspa

/-- `hashes::Hash`, 32 bytes. -/
abbrev Hash := BitVec 256

/-- `crate::tx::TransactionId` is a `Hash`. -/
abbrev TransactionId := Hash

/-- `kaspa_notify::events::EventType`: one constructor per notification variant. -/
inductive EventType
  | BlockAdded
  | VirtualSelectedParentChainChanged
  | FinalityConflict
  | FinalityConflictResolved
  | UtxosChanged
  | VirtualSelectedParentBlueScoreChanged
  | VirtualDaaScoreChanged
  | PruningPointUtxoSetOverride
  | NewBlockTemplate
  deriving DecidableEq, Repr

/-! ## The notification and its payloads -/

section Payloads

variable (Block UtxoDiff : Type)

structure BlockAddedNotification where
  block : Block
  deriving DecidableEq, Repr

structure VirtualSelectedParentChainChangedNotification where
  addedChainBlockHashes : List Hash
  removedChainBlockHashes : List Hash
  acceptedTransactionIds : List TransactionId
  deriving DecidableEq, Repr

structure FinalityConflictNotification where
  violatingBlockHash : Hash
  deriving DecidableEq, Repr

structure FinalityConflictResolvedNotification where
  finalityBlockHash : Hash
  deriving DecidableEq, Repr

/-- Accumulated UTXO diff between the last virtual state and the current virtual state. -/
structure UtxosChangedNotification where
  accumulatedUtxoDiff : UtxoDiff
  deriving DecidableEq, Repr

structure VirtualSelectedParentBlueScoreChangedNotification where
  virtualSelectedParentBlueScore : UInt64
  deriving DecidableEq, Repr

structure VirtualDaaScoreChangedNotification where
  virtualDaaScore : UInt64
  deriving DecidableEq, Repr

/-- `consensus::notification::Notification`.  The `Arc`s around the payloads are sharing, not
data, and are left out. -/
inductive Notification
  | BlockAdded (payload : BlockAddedNotification Block)
  | VirtualSelectedParentChainChanged (payload : VirtualSelectedParentChainChangedNotification)
  | FinalityConflict (payload : FinalityConflictNotification)
  | FinalityConflictResolved (payload : FinalityConflictResolvedNotification)
  | UtxosChanged (payload : UtxosChangedNotification UtxoDiff)
  | VirtualSelectedParentBlueScoreChanged
      (payload : VirtualSelectedParentBlueScoreChangedNotification)
  | VirtualDaaScoreChanged (payload : VirtualDaaScoreChangedNotification)
  | PruningPointUtxoSetOverride
  | NewBlockTemplate
  deriving DecidableEq, Repr

end Payloads

/-! ## Subscriptions

Modelled from the spec: the `kaspa_notify::subscription::single` records are missing from the
repository.  The spec's record per (listener, event type) is `{ active, filter }`; the filter is
the `include_accepted_transaction_ids` flag for the chain-changed event, a set of addresses for
the UTXO event (never read by a filter here, so left out), and nothing otherwise.
-/

/-- Modelled from the spec: `OverallSubscription`, a subscription with no filter. -/
structure OverallSubscription where
  eventType : EventType
  active : Bool
  deriving DecidableEq, Repr

/-- Modelled from the spec: `VirtualSelectedParentChainChangedSubscription`. -/
structure VirtualSelectedParentChainChangedSubscription where
  active : Bool
  includeAcceptedTransactionIds : Bool
  deriving DecidableEq, Repr

/-- Modelled from the spec: `UtxosChangedSubscription`, of which the filter reads nothing. -/
structure UtxosChangedSubscription where
  active : Bool
  deriving DecidableEq, Repr

namespace Notification

variable {Block UtxoDiff : Type}

/-- `event_type`: the `From<&Notification> for EventType` that `full_featured!` derives. -/
def eventType : Notification Block UtxoDiff → EventType
  | BlockAdded _ => .BlockAdded
  | VirtualSelectedParentChainChanged _ => .VirtualSelectedParentChainChanged
  | FinalityConflict _ => .FinalityConflict
  | FinalityConflictResolved _ => .FinalityConflictResolved
  | UtxosChanged _ => .UtxosChanged
  | VirtualSelectedParentBlueScoreChanged _ => .VirtualSelectedParentBlueScoreChanged
  | VirtualDaaScoreChanged _ => .VirtualDaaScoreChanged
  | PruningPointUtxoSetOverride => .PruningPointUtxoSetOverride
  | NewBlockTemplate => .NewBlockTemplate

/-! ## The three filters -/

/-- `apply_overall_subscription`. -/
def applyOverallSubscription (self : Notification Block UtxoDiff)
    (subscription : OverallSubscription) : Option (Notification Block UtxoDiff) :=
  match subscription.active with
  | true => some self
  | false => none

/-- `apply_virtual_selected_parent_chain_changed_subscription`: a chain-changed notification
carrying accepted transaction ids loses them when the subscription does not include them. -/
def applyVirtualSelectedParentChainChangedSubscription (self : Notification Block UtxoDiff)
    (subscription : VirtualSelectedParentChainChangedSubscription) :
    Option (Notification Block UtxoDiff) :=
  match subscription.active with
  | true =>
    match self with
    | VirtualSelectedParentChainChanged payload =>
      if !subscription.includeAcceptedTransactionIds && !payload.acceptedTransactionIds.isEmpty then
        some (VirtualSelectedParentChainChanged
          { removedChainBlockHashes := payload.removedChainBlockHashes
            addedChainBlockHashes := payload.addedChainBlockHashes
            acceptedTransactionIds := [] })
      else some self
    | _ => some self
  | false => none

/-- `apply_utxos_changed_subscription`. -/
def applyUtxosChangedSubscription (self : Notification Block UtxoDiff)
    (_subscription : UtxosChangedSubscription) : Option (Notification Block UtxoDiff) :=
  some self

/-! ## What the filters guarantee -/

/-- The spec's chain-changed filter, for an active subscription: if
`include_accepted_transaction_ids` is false and the notification carries accepted transaction
ids, a copy with an empty list in their place; anything else as it is. -/
def chainChangedView (withIds : Bool) : Notification Block UtxoDiff → Notification Block UtxoDiff
  | VirtualSelectedParentChainChanged p =>
    if withIds = false ∧ p.acceptedTransactionIds ≠ [] then
      VirtualSelectedParentChainChanged ⟨p.addedChainBlockHashes, p.removedChainBlockHashes, []⟩
    else VirtualSelectedParentChainChanged p
  | n => n

@[simp] lemma eventType_chainChangedView (withIds : Bool) (n : Notification Block UtxoDiff) :
    (chainChangedView withIds n).eventType = n.eventType := by
  cases n with
  | VirtualSelectedParentChainChanged p => simp only [chainChangedView]; split_ifs <;> rfl
  | _ => rfl

/-- Dropping the accepted transaction ids a second time finds none left to drop. -/
@[simp] lemma chainChangedView_idem (withIds : Bool) (n : Notification Block UtxoDiff) :
    chainChangedView withIds (chainChangedView withIds n) = chainChangedView withIds n := by
  cases n with
  | VirtualSelectedParentChainChanged p =>
    by_cases h : withIds = false ∧ p.acceptedTransactionIds ≠ [] <;> simp [chainChangedView, h]
  | _ => rfl

lemma applyOverallSubscription_eq (n : Notification Block UtxoDiff) (s : OverallSubscription) :
    n.applyOverallSubscription s = if s.active then some n else none := by
  cases h : s.active <;> simp [applyOverallSubscription, h]

/-- The code's chain-changed filter is the spec's, behind the `active` gate. -/
lemma applyVirtualSelectedParentChainChangedSubscription_eq (n : Notification Block UtxoDiff)
    (s : VirtualSelectedParentChainChangedSubscription) :
    n.applyVirtualSelectedParentChainChangedSubscription s =
      if s.active then some (chainChangedView s.includeAcceptedTransactionIds n) else none := by
  cases ha : s.active
  · simp [applyVirtualSelectedParentChainChangedSubscription, ha]
  · cases n <;> simp [applyVirtualSelectedParentChainChangedSubscription, chainChangedView, ha]
    split_ifs <;> simp_all

/-- **The filter contract.**  For every notification and every subscription: what each filter
returns, that a delivered notification keeps its event type, and that a filter applied to its
own result returns it unchanged. -/
theorem notification_filters_contract (n : Notification Block UtxoDiff)
    (so : OverallSubscription) (sc : VirtualSelectedParentChainChangedSubscription)
    (su : UtxosChangedSubscription) :
    n.applyOverallSubscription so = (if so.active then some n else none) ∧
    n.applyVirtualSelectedParentChainChangedSubscription sc =
      (if sc.active then some (chainChangedView sc.includeAcceptedTransactionIds n) else none) ∧
    n.applyUtxosChangedSubscription su = some n ∧
    (∀ m, n.applyOverallSubscription so = some m →
      m.eventType = n.eventType ∧ m.applyOverallSubscription so = some m) ∧
    (∀ m, n.applyVirtualSelectedParentChainChangedSubscription sc = some m →
      m.eventType = n.eventType ∧ m.applyVirtualSelectedParentChainChangedSubscription sc = some m) ∧
    (∀ m, n.applyUtxosChangedSubscription su = some m →
      m.eventType = n.eventType ∧ m.applyUtxosChangedSubscription su = some m) := by
  refine ⟨applyOverallSubscription_eq n so,
    applyVirtualSelectedParentChainChangedSubscription_eq n sc, rfl, ?_, ?_, ?_⟩
  · intro m h
    rw [applyOverallSubscription_eq] at h ⊢
    split_ifs at h ⊢ with ha
    cases h
    exact ⟨rfl, rfl⟩
  · intro m h
    rw [applyVirtualSelectedParentChainChangedSubscription_eq] at h ⊢
    split_ifs at h ⊢ with ha
    cases h
    simp
  · rintro m ⟨⟩
    exact ⟨rfl, rfl⟩

end Notification

end Kaspa
