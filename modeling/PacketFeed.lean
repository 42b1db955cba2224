import PacketFeed.Interface.Layout
import PacketFeed.Main
import PacketFeed.Proofs.Aliases
import PacketFeed.Proofs.Compatibility
import PacketFeed.Proofs.Declarations
import PacketFeed.Proofs.Disclosure
import PacketFeed.Proofs.Duration
import PacketFeed.Proofs.Exhaustion
import PacketFeed.Proofs.Grammar
import PacketFeed.Proofs.Isolation
import PacketFeed.Proofs.Journal
import PacketFeed.Proofs.Leaves
import PacketFeed.Proofs.Positions
import PacketFeed.Proofs.Records
import PacketFeed.Proofs.Rejection
import PacketFeed.Proofs.Reuse
import PacketFeed.Proofs.Scripted
import PacketFeed.Proofs.Truncation
import PacketFeed.Proofs.Uniformity
