import NknSdk.Lib.Exec
import NknSdk.Lib.Run
import NknSdk.Lib.Machine
import NknSdk.Lib.Circle
import NknSdk.Lib.Ledger
import NknSdk.Lib.SelfDelimiting
import NknSdk.Lib.Wire
import NknSdk.Pb.Transaction
import NknSdk.Pb.Packet
import NknSdk.Tx.Transaction
import NknSdk.Nanopay.Claimer
import NknSdk.Nanopay.History
import NknSdk.Nanopay.FlushRace
import NknSdk.Lib.Memo
import NknSdk.Lib.Utf8
import NknSdk.Utils.SharedKey
import NknSdk.Tx.Signing
import NknSdk.Lib.Heap
import NknSdk.Lib.Table
import NknSdk.Session.Connection
import NknSdk.Session.Session
import NknSdk.Session.Receive
import NknSdk.Session.Runs
import NknSdk.Session.Acks
import NknSdk.Session.Delivery
import NknSdk.Lib.Threads
import NknSdk.Session.Writers
import NknSdk.Lib.Hex
import NknSdk.Pb.Payloads
import NknSdk.Pb.SigChain
import NknSdk.Utils.Address
import NknSdk.Client.Client
import NknSdk.Client.Send
import NknSdk.Client.HandleMessage
import NknSdk.Client.Replies
import NknSdk.Serialization.ReadBack
import NknSdk.Serialization.PrefixFree
import NknSdk.Pb.SigChainDigest
import NknSdk.Lib.WireDecode
import NknSdk.Pb.Decode
import NknSdk.Utils.Identifier
import NknSdk.Client.Encryption
import NknSdk.Client.Robustness
import NknSdk.Session.Handshake
import NknSdk.Session.FlowControl
import NknSdk.Session.Transmit
import NknSdk.Nanopay.Payer
import NknSdk.Nanopay.Agreement
import NknSdk.Session.Reading
import NknSdk.Session.Rejection
import NknSdk.Nanopay.Refusal
import NknSdk.Session.AckEffect
import NknSdk.Tx.SignedData
import NknSdk.Lib.Base58
import NknSdk.Wallet.Account
import NknSdk.Nanopay.Recipient
import NknSdk.Utils.Json
import NknSdk.Wallet.Keystore
import NknSdk.Rpc.Call
import NknSdk.Rpc.Race
import NknSdk.Lib.Packing
import NknSdk.Client.Batching
import NknSdk.Client.Compression
import NknSdk.Client.Outbound
import NknSdk.Rpc.Post
import NknSdk.Rpc.Failover
import NknSdk.Session.AckBatches
import NknSdk.Session.AckCalls
import NknSdk.Client.Reports
import NknSdk.Client.Destinations
import NknSdk.Nanopay.Background
import NknSdk.Nanopay.Payments
import NknSdk.Wallet.Import
import NknSdk.Rpc.Submit
import NknSdk.Utils.SeqArith
import NknSdk.Pb.PacketDecode
import NknSdk.Session.Endpoint
import NknSdk.Session.Network
import NknSdk.Session.Quiet
import NknSdk.Session.Outgoing
import NknSdk.Lib.FairLock
import NknSdk.Session.Tasks
import NknSdk.Client.MultiClient
import NknSdk.Client.Connect
import NknSdk.Client.Lifecycle
import NknSdk.Lib.WireRecord
import NknSdk.Pb.TxPayloads
import NknSdk.Tx.Constructors
import NknSdk.Nanopay.Claiming
import NknSdk.Nanopay.Submission
