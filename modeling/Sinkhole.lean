import Sinkhole.Main
import Sinkhole.Proofs.Blocklist.DomainNames
import Sinkhole.Proofs.Blocklist.Insertion
import Sinkhole.Proofs.Blocklist.Labels
import Sinkhole.Proofs.Blocklist.Loading
import Sinkhole.Proofs.Blocklist.Lookup
import Sinkhole.Proofs.Blocklist.Membership
import Sinkhole.Proofs.Dns.Decoding
import Sinkhole.Proofs.Dns.NameText
import Sinkhole.Proofs.Dns.RoundTrip
import Sinkhole.Proofs.Resolver.Blocking
import Sinkhole.Proofs.Resolver.Decision
import Sinkhole.Proofs.Resolver.Interleaving
import Sinkhole.Proofs.Server.Answers
import Sinkhole.Proofs.Server.Reply
import Sinkhole.Proofs.Dns.NamePlaces
import Sinkhole.Proofs.Dns.Reencoding
import Sinkhole.Proofs.Server.Delivery
import Sinkhole.Proofs.Server.Conversation
import Sinkhole.Proofs.Blocklist.Lines
import Sinkhole.Proofs.Blocklist.Strictness
import Sinkhole.Proofs.Blocklist.Interruption
import Sinkhole.Proofs.Server.Independence
import Sinkhole.Proofs.Blocklist.PatternSet
import Sinkhole.Proofs.Blocklist.Fallback
import Sinkhole.Proofs.Dns.NameTrail
import Sinkhole.Proofs.Dns.Boundary
import Sinkhole.Proofs.Dns.Capacity
import Sinkhole.Proofs.Blocklist.Acceptance
import Sinkhole.Proofs.Blocklist.Spelling
import Sinkhole.Proofs.Blocklist.Legality
import Sinkhole.Proofs.Server.OpcodeEcho
import Sinkhole.Proofs.Server.Summary
import Sinkhole.Proofs.Upstream.Selection
import Sinkhole.Proofs.Resolver.Turnstile
import Sinkhole.Proofs.Blocklist.Composition
import Sinkhole.Proofs.Dns.NameViews
import Sinkhole.Proofs.Dns.Cursor
import Sinkhole.Proofs.Startup.Acceptance
import Sinkhole.Proofs.Dns.Buffer
import Sinkhole.Proofs.Blocklist.Shape
import Sinkhole.Proofs.Blocklist.Ending
import Sinkhole.Blocklist.Search
import Sinkhole.Proofs.Blocklist.Search
