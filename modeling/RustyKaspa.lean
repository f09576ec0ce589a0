import RustyKaspa.Consensus.Notification
import RustyKaspa.Rpc.Channel
import RustyKaspa.Rpc.Messages
import RustyKaspa.Rpc.Notify.Notifier
import RustyKaspa.Rpc.Client.Resolver
import RustyKaspa.Rpc.Client.Lifecycle
import RustyKaspa.Rpc.Client.Inner
import RustyKaspa.Rpc.Client.Session
import RustyKaspa.Rpc.Client.Receiver
import RustyKaspa.Rpc.Client.Correlation
import RustyKaspa.Rpc.Client.Shutdown
import RustyKaspa.Rpc.Client.Pendings
import RustyKaspa.Rpc.Client.Calls
import RustyKaspa.Rpc.Client.GrpcClient
