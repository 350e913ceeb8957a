import Spdm.Certificate.Alias
import Spdm.Certificate.EccDer
import Spdm.Certificate.Format
import Spdm.Certificate.KeyUsage
import Spdm.Certificate.Leaf
import Spdm.Certificate.Ring
import Spdm.Certificate.Settled
import Spdm.Certificate.Walk
import Spdm.Certificate.X509
import Spdm.Context.Acts
import Spdm.Context.Append
import Spdm.Context.Channel
import Spdm.Context.Def
import Spdm.Context.Import
import Spdm.Context.Mild
import Spdm.Context.Signature
import Spdm.Context.Small
import Spdm.Context.Steps
import Spdm.Context.Transcript
import Spdm.Executor
import Spdm.Lib.Buffer
import Spdm.Lib.Codec
import Spdm.Lib.Der
import Spdm.Lib.Loop
import Spdm.Lib.Prog
import Spdm.Lib.Slice
import Spdm.Lib.Total
import Spdm.Lib.Writes
import Spdm.Message.Attestation
import Spdm.Message.Chunk
import Spdm.Message.MeasurementRecord
import Spdm.Message.Negotiation
import Spdm.Message.Opaque
import Spdm.Message.Selection
import Spdm.Message.Session
import Spdm.Message.Total
import Spdm.Parties.CertificatePolicy
import Spdm.Parties.Digests
import Spdm.Parties.Modes
import Spdm.Parties.Timeout
import Spdm.Protocol.Crypto
import Spdm.Protocol.Device
import Spdm.Protocol.Laws
import Spdm.Protocol.Separation
import Spdm.Protocol.Types
import Spdm.Requester.Algorithms
import Spdm.Requester.Attestation
import Spdm.Requester.Attested
import Spdm.Requester.CertificateChain
import Spdm.Requester.CertificateFetch
import Spdm.Requester.Context
import Spdm.Requester.KeyUpdate
import Spdm.Requester.LargeRequest
import Spdm.Requester.LargeResponse
import Spdm.Requester.Negotiation
import Spdm.Requester.Packets
import Spdm.Requester.Rollback
import Spdm.Requester.Steps
import Spdm.Requester.Upkeep
import Spdm.Requester.Version
import Spdm.Responder.Answer
import Spdm.Responder.Answered
import Spdm.Responder.AppMessage
import Spdm.Responder.Attestation
import Spdm.Responder.CertChains
import Spdm.Responder.ChunkBuffer
import Spdm.Responder.Chunks
import Spdm.Responder.Codes
import Spdm.Responder.Context
import Spdm.Responder.Delivered
import Spdm.Responder.Error
import Spdm.Responder.Isolation
import Spdm.Responder.KeyUpdate
import Spdm.Responder.Negotiation
import Spdm.Responder.Order
import Spdm.Responder.PskFresh
import Spdm.Responder.Refusals
import Spdm.Responder.Rejected
import Spdm.Responder.Run
import Spdm.Responder.Service
import Spdm.Responder.Session
import Spdm.Responder.Standing
import Spdm.Responder.Steady
import Spdm.Responder.Steps
import Spdm.Responder.Upkeep
import Spdm.Responder.Version
import Spdm.Responder.Watchdog
import Spdm.Session.Acts
import Spdm.Session.Conversation
import Spdm.Session.Def
import Spdm.Session.Delivery
import Spdm.Session.Freshness
import Spdm.Session.KeyUpdate
import Spdm.Session.Refused
import Spdm.Session.Reuse
import Spdm.Session.Secured
import Spdm.Session.Steps
import Spdm.Session.Total
import Spdm.Tdisp.Device
import Spdm.Tdisp.Message
import Spdm.Tdisp.Report
import Spdm.Transport.Bindings
import Spdm.Transport.Mctp
import Spdm.Transport.PciDoe
