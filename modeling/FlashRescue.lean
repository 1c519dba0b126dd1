import FlashRescue.Link.Duplex
import FlashRescue.Board.Staged
import FlashRescue.Bench.Desk
import FlashRescue.Main
import FlashRescue.Proofs.Word
import FlashRescue.Proofs.Clock
import FlashRescue.Proofs.Link.Line
import FlashRescue.Proofs.Dialogue.Course
import FlashRescue.Proofs.Dialogue.Transcript
import FlashRescue.Proofs.Dialogue.Walk
import FlashRescue.Proofs.Flash.Block
import FlashRescue.Proofs.Checksum.Burst
import FlashRescue.Proofs.Session.Ledger
import FlashRescue.Proofs.Session.Trade
import FlashRescue.Proofs.Session.Dispatch
import FlashRescue.Proofs.Session.Frame
import FlashRescue.Proofs.Session.Integrity
import FlashRescue.Proofs.Session.Interpretation
import FlashRescue.Proofs.Bench.Replay
import FlashRescue.Proofs.Bench.Desk
import FlashRescue.Proofs.Host.Image
import FlashRescue.Proofs.Host.Exchange
import FlashRescue.Proofs.Host.Flashing
import FlashRescue.Proofs.Host.Verification
import FlashRescue.Proofs.Bench.Courier
import FlashRescue.Proofs.Host.Calls
import FlashRescue.Proofs.Host.Staleness
import FlashRescue.Proofs.Boot.Memory
import FlashRescue.Proofs.Boot.Announcement
import FlashRescue.Proofs.Boot.Relocation
import FlashRescue.Proofs.Boot.Entry
import FlashRescue.Proofs.Boot.Cleanup
import FlashRescue.Proofs.Boot.Transparency
import FlashRescue.Proofs.Boot.InPlace
import FlashRescue.Proofs.Session.Rounds
import FlashRescue.Proofs.Session.Passage
import FlashRescue.Proofs.Session.Vigil
import FlashRescue.Proofs.Session.Silence
import FlashRescue.Proofs.Boot.Budget
import FlashRescue.Proofs.Boot.Attempt
import FlashRescue.Proofs.Boot.Termination
import FlashRescue.Proofs.Boot.Safety
import FlashRescue.Proofs.Host.Stops
import FlashRescue.Proofs.Host.Speech
import FlashRescue.Proofs.Host.Visits
import FlashRescue.Proofs.Host.Finishing
import FlashRescue.Proofs.Bench.Listener
import FlashRescue.Proofs.Boot.Timetable
import FlashRescue.Proofs.Boot.Hearing
import FlashRescue.Proofs.Host.Failures
import FlashRescue.Proofs.Host.Handover
import FlashRescue.Proofs.Session.Causality
import FlashRescue.Proofs.Boot.Succession
import FlashRescue.Proofs.Host.Insistence
import FlashRescue.Proofs.Host.Conduct
import FlashRescue.Proofs.Host.ReadBack
import FlashRescue.Proofs.Host.Acknowledgement
import FlashRescue.Proofs.Host.Streaming
import FlashRescue.Proofs.Host.Persistence
import FlashRescue.Proofs.Host.Recognition
import FlashRescue.Proofs.Host.Listing
import FlashRescue.Proofs.Host.Selection
import FlashRescue.Proofs.Host.Altered
import FlashRescue.Proofs.Link.Duplex
import FlashRescue.Proofs.Link.Stream
import FlashRescue.Proofs.Link.Traffic
import FlashRescue.Proofs.Link.Timeline
import FlashRescue.Proofs.Dialogue.History
import FlashRescue.Proofs.Flash.Bytes
import FlashRescue.Proofs.Memory.Stack
import FlashRescue.Proofs.Memory.Misled
import FlashRescue.Proofs.Session.Pacing
