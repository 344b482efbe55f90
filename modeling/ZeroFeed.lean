import ZeroFeed.Core.Aead
import ZeroFeed.Core.BufferedReads
import ZeroFeed.Core.ByteString
import ZeroFeed.Core.Census
import ZeroFeed.Core.Circular
import ZeroFeed.Core.FileSystem
import ZeroFeed.Core.HighWater
import ZeroFeed.Core.Locking
import ZeroFeed.Core.Query
import ZeroFeed.Core.ReadProgram
import ZeroFeed.Core.Recycling
import ZeroFeed.Core.Regex
import ZeroFeed.Core.Rfc5869
import ZeroFeed.Core.RwLocking
import ZeroFeed.Core.ShortReads
import ZeroFeed.Core.Slices
import ZeroFeed.Core.Text
import ZeroFeed.Core.Threads
import ZeroFeed.Core.Transition
import ZeroFeed.Crypto.Cipher
import ZeroFeed.Crypto.Hkdf
import ZeroFeed.Crypto.Memzero
import ZeroFeed.Crypto.Pake
import ZeroFeed.Crypto.Primitives
import ZeroFeed.Feed.Agreement
import ZeroFeed.Feed.CatchUp
import ZeroFeed.Feed.Closing
import ZeroFeed.Feed.Coherence
import ZeroFeed.Feed.Delivery
import ZeroFeed.Feed.Dial
import ZeroFeed.Feed.Downloads
import ZeroFeed.Feed.Epochs
import ZeroFeed.Feed.Escapes
import ZeroFeed.Feed.Finality
import ZeroFeed.Feed.Frame
import ZeroFeed.Feed.Goroutines
import ZeroFeed.Feed.Handshake
import ZeroFeed.Feed.Invite
import ZeroFeed.Feed.Listener
import ZeroFeed.Feed.Locks
import ZeroFeed.Feed.Multiplex
import ZeroFeed.Feed.NonceSafety
import ZeroFeed.Feed.Overflow
import ZeroFeed.Feed.Pipe
import ZeroFeed.Feed.PooledRing
import ZeroFeed.Feed.Publisher
import ZeroFeed.Feed.Queue
import ZeroFeed.Feed.Reassembly
import ZeroFeed.Feed.Receiver
import ZeroFeed.Feed.Reconnect
import ZeroFeed.Feed.Ring
import ZeroFeed.Feed.Sanitize
import ZeroFeed.Feed.SendFile
import ZeroFeed.Feed.Sequential
import ZeroFeed.Feed.Solo
import ZeroFeed.Feed.Subscriber
import ZeroFeed.Feed.TrafficShape
import ZeroFeed.Feed.Transfer
import ZeroFeed.Feed.Uninterrupted
import ZeroFeed.Feed.UntrustedRelay
import ZeroFeed.Protocol.Buffers
import ZeroFeed.Protocol.Envelope
import ZeroFeed.Protocol.Messages
import ZeroFeed.Protocol.Stream
import ZeroFeed.Relay.Accounting
import ZeroFeed.Relay.Admission
import ZeroFeed.Relay.Bans
import ZeroFeed.Relay.Directory
import ZeroFeed.Relay.FanOut
import ZeroFeed.Relay.FrontDoor
import ZeroFeed.Relay.Handlers
import ZeroFeed.Relay.Isolation
import ZeroFeed.Relay.Locks
import ZeroFeed.Relay.OriginCheck
import ZeroFeed.Relay.Passage
import ZeroFeed.Relay.ProxyProto
import ZeroFeed.Relay.Publishers
import ZeroFeed.Relay.RateLimit
import ZeroFeed.Relay.Rendezvous
import ZeroFeed.Relay.Seats
import ZeroFeed.Relay.Session
import ZeroFeed.Relay.Teardown
import ZeroFeed.Relay.Traffic
import ZeroFeed.Relay.WebSocket
import ZeroFeed.Relay.WebSocketOutput
import ZeroFeed.System.EndToEnd
import ZeroFeed.Wasm.Exports
import ZeroFeed.Wasm.Payloads
