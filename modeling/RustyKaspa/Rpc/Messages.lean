import RustyKaspa.Consensus.Notification

/-!
# The gRPC messages as the client sees them

The client in `rpc/grpc/src/client/mod.rs` moves `KaspadRequest`s and `KaspadResponse`s; their
definitions are generated from the protowire schema and are not part of the repository.  The
spec treats them as an opaque codec: a request carries an operation, a payload and an optional
64-bit id; a response carries an id, an optional payload and a classification bit.  That is what
is modelled here, with the operations `GrpcClient` routes taken from its `route!` list.

A message body is out of scope.  Of a request message the model keeps its operation and the key
that tells it apart from the other requests of its operation (the hash of a `GetBlock`), which
the queue resolver matches on; of a response, the operation and the key of the request it
answers.  Of a notification message the model keeps what converting it gives
(`Notification::try_from`), so a stream can hold notifications that fail to convert.
-/

namespace Kaspa

/-- `kaspa_rpc_core::api::ops::RpcApiOps`: the operations `GrpcClient` routes, in the order of
its `route!` list, and the notify operation of each event type. -/
inductive RpcApiOps
  | Ping
  | GetProcessMetrics
  | SubmitBlock
  | GetBlockTemplate
  | GetBlock
  | GetInfo
  | GetCurrentNetwork
  | GetPeerAddresses
  | GetSelectedTipHash
  | GetMempoolEntry
  | GetMempoolEntries
  | GetConnectedPeerInfo
  | AddPeer
  | SubmitTransaction
  | GetSubnetwork
  | GetVirtualSelectedParentChainFromBlock
  | GetBlocks
  | GetBlockCount
  | GetBlockDagInfo
  | ResolveFinalityConflict
  | Shutdown
  | GetHeaders
  | GetUtxosByAddresses
  | GetBalanceByAddress
  | GetBalancesByAddresses
  | GetVirtualSelectedParentBlueScore
  | Ban
  | Unban
  | EstimateNetworkHashesPerSecond
  | GetMempoolEntriesByAddresses
  | GetCoinSupply
  | Notify (event : EventType)
  deriving DecidableEq, Repr

/-- A kaspa address, by its string encoding. -/
abbrev Address := String

/-- `kaspa_rpc_core::NotificationType`: an event type with the filter a listener asks for. -/
inductive NotificationType
  | BlockAdded
  | VirtualSelectedParentChainChanged (includeAcceptedTransactionIds : Bool)
  | FinalityConflict
  | FinalityConflictResolved
  | UtxosChanged (addresses : List Address)
  | VirtualSelectedParentBlueScoreChanged
  | VirtualDaaScoreChanged
  | PruningPointUtxoSetOverride
  | NewBlockTemplate
  deriving DecidableEq, Repr

/-- The `EventType` of a `NotificationType`. -/
def NotificationType.eventType : NotificationType → EventType
  | .BlockAdded => .BlockAdded
  | .VirtualSelectedParentChainChanged _ => .VirtualSelectedParentChainChanged
  | .FinalityConflict => .FinalityConflict
  | .FinalityConflictResolved => .FinalityConflictResolved
  | .UtxosChanged _ => .UtxosChanged
  | .VirtualSelectedParentBlueScoreChanged => .VirtualSelectedParentBlueScoreChanged
  | .VirtualDaaScoreChanged => .VirtualDaaScoreChanged
  | .PruningPointUtxoSetOverride => .PruningPointUtxoSetOverride
  | .NewBlockTemplate => .NewBlockTemplate

/-- `kaspa_rpc_core::api::ops::SubscribeCommand`. -/
inductive SubscribeCommand
  | Start
  | Stop
  deriving DecidableEq, Repr

/-- What tells a request apart from the other requests of its operation (the block hash of a
`GetBlock` request), as the codec encodes it. -/
abbrev RequestKey := List UInt8

/-- `kaspad_request::Payload`: the request message of a routed operation, with its
distinguishing key when it has parameters, or the subscribe message
`kaspad_request::Payload::from_notification_type` builds. -/
inductive RequestPayload
  | Call (op : RpcApiOps) (key : Option RequestKey)
  | Subscribe (notificationType : NotificationType) (command : SubscribeCommand)
  deriving DecidableEq, Repr

/-- `kaspad_request::Payload::from_notification_type`. -/
def RequestPayload.fromNotificationType (notificationType : NotificationType)
    (command : SubscribeCommand) : RequestPayload :=
  .Subscribe notificationType command

/-- `impl From<&kaspad_request::Payload> for RpcApiOps`. -/
def RequestPayload.op : RequestPayload → RpcApiOps
  | .Call op _ => op
  | .Subscribe notificationType _ => .Notify notificationType.eventType

/-- The distinguishing key of a request message; a subscribe message has none. -/
def RequestPayload.key? : RequestPayload → Option RequestKey
  | .Call _ key => key
  | .Subscribe _ _ => none

/-- `KaspadRequest`. -/
structure KaspadRequest where
  id : UInt64
  payload : Option RequestPayload
  deriving DecidableEq, Repr

/-- The distinguishing key of a request. -/
def KaspadRequest.key? (self : KaspadRequest) : Option RequestKey :=
  self.payload.bind RequestPayload.key?

/-- `kaspa_rpc_core::Notification` as the client handles it: the client reads nothing of a
notification but its event type (for a trace line), so the rest is an opaque body. -/
structure RpcNotification where
  event : EventType
  body : List UInt8
  deriving DecidableEq, Repr

/-- `GetInfoResponse`, of which the client reads the two capability flags. -/
structure GetInfoResponse where
  hasNotifyCommand : Bool
  hasMessageId : Bool
  deriving DecidableEq, Repr

/-- `kaspad_response::Payload`: the response message of an operation, with the key of the
request it answers read off its properties (the hash of the block a `GetBlock` response
carries), the `GetInfo` response with its capability flags, or a notification message, kept as
what `Notification::try_from` makes of it (`none` when the conversion fails). -/
inductive ResponsePayload
  | Response (op : RpcApiOps) (key : Option RequestKey)
  | GetInfoResponse (response : GetInfoResponse)
  | Notification (converted : Option RpcNotification)
  deriving DecidableEq, Repr

/-- `KaspadResponse`. -/
structure KaspadResponse where
  id : UInt64
  payload : Option ResponsePayload
  deriving DecidableEq, Repr

/-- `kaspa_rpc_core::RpcError`, the variants the client produces. -/
inductive RpcError
  | UnsupportedFeature
  | General (message : String)
  deriving DecidableEq, Repr

/-- The client's `errors::Error`, the variants its code paths produce. -/
inductive Error
  | String (message : String)
  | MissingRequestPayload
  | ChannelRecvError
  | Timeout
  | TonicStatus (status : String)
  deriving DecidableEq, Repr

/-- Results compare by their constructor and contents. -/
instance instDecidableEqExcept {ε α : Type} [DecidableEq ε] [DecidableEq α] :
    DecidableEq (Except ε α)
  | .error a, .error b => decidable_of_iff (a = b) ⟨congrArg _, Except.error.inj⟩
  | .ok a, .ok b => decidable_of_iff (a = b) ⟨congrArg _, Except.ok.inj⟩
  | .error _, .ok _ => isFalse fun h => Except.noConfusion h
  | .ok _, .error _ => isFalse fun h => Except.noConfusion h

/-- `tonic::Status`, by its message. -/
structure Status where
  message : String
  deriving DecidableEq, Repr

/-- What one `stream.message().await` gives: a message, the end of the stream (`Ok(None)`), or
a transport error. -/
abbrev StreamResult := Except Status (Option KaspadResponse)

namespace KaspadResponse

/-- `KaspadResponse::is_notification`. -/
def isNotification (self : KaspadResponse) : Bool :=
  match self.payload with
  | some (.Notification _) => true
  | _ => false

/-- The operation of a response's payload (`response.payload.as_ref().unwrap().into()`). -/
def op? (self : KaspadResponse) : Option RpcApiOps :=
  match self.payload with
  | some (.Response op _) => some op
  | some (.GetInfoResponse _) => some .GetInfo
  | _ => none

/-- The key of the request a response answers, read off its properties. -/
def key? (self : KaspadResponse) : Option RequestKey :=
  match self.payload with
  | some (.Response _ key) => key
  | _ => none

/-- `RpcResult<GetInfoResponse>::try_from(&KaspadResponse)`. -/
def getInfoResponse (self : KaspadResponse) : Except RpcError GetInfoResponse :=
  match self.payload with
  | some (.GetInfoResponse response) => .ok response
  | _ => .error (.General "response is not a GetInfo response")

end KaspadResponse

/-- `Notification::try_from(&KaspadResponse)`. -/
def RpcNotification.tryFrom (response : KaspadResponse) : Except RpcError RpcNotification :=
  match response.payload with
  | some (.Notification (some notification)) => .ok notification
  | _ => .error (.General "response is not a convertible notification")

end Kaspa
