import RangeLottery.Client
import RangeLottery.Step.Run
import RangeLottery.Proofs.Ledger.Holding
import RangeLottery.Proofs.Ledger.Change
import RangeLottery.Proofs.Ledger.Funding
import RangeLottery.Proofs.Record.Lottery
import RangeLottery.Proofs.Record.Payout
import RangeLottery.Proofs.Record.Tiling
import RangeLottery.Proofs.Record.Course
import RangeLottery.Proofs.Record.Lifecycle
import RangeLottery.Proofs.Record.Codec
import RangeLottery.Proofs.Record.Storage
import RangeLottery.Proofs.Record.Guards
import RangeLottery.Proofs.Record.SaleOrder
import RangeLottery.Proofs.Record.FeeShare
import RangeLottery.Proofs.Record.Edit
import RangeLottery.Proofs.Request
import RangeLottery.Proofs.WinningNumber
import RangeLottery.Proofs.Roster.Order
import RangeLottery.Proofs.Roster.Insertion
import RangeLottery.Proofs.Roster.Ranges
import RangeLottery.Proofs.Roster.Holder
import RangeLottery.Proofs.Roster.AnyOrder
import RangeLottery.Proofs.Roster.Cover
import RangeLottery.Proofs.Roster.Edit
import RangeLottery.Proofs.SlotHistory.Checkpoint
import RangeLottery.Proofs.SlotHistory.Ageing
import RangeLottery.Proofs.SlotHistory.Scan
import RangeLottery.Proofs.SlotHistory.Boundary
import RangeLottery.Proofs.SlotHistory.InPlace
import RangeLottery.Proofs.Step.Check
import RangeLottery.Proofs.Step.Session
import RangeLottery.Proofs.Step.Continuation
import RangeLottery.Proofs.Step.Record
import RangeLottery.Proofs.Step.Voiding
import RangeLottery.Proofs.Step.Drawing
import RangeLottery.Proofs.Step.Opening
import RangeLottery.Proofs.Step.Purchase
import RangeLottery.Proofs.Step.Settlement
import RangeLottery.Proofs.Step.Deed
import RangeLottery.Proofs.Step.Permission
import RangeLottery.Proofs.Step.Refinement
import RangeLottery.Proofs.Step.Announcement
import RangeLottery.Proofs.Step.Answer
import RangeLottery.Proofs.Step.DrawGuards
import RangeLottery.Proofs.Run.Moment
import RangeLottery.Proofs.Run.Tickets
import RangeLottery.Proofs.Run.Deposits
import RangeLottery.Proofs.Run.Payouts
import RangeLottery.Proofs.Run.Draws
import RangeLottery.Proofs.Run.EventLog
import RangeLottery.Proofs.Run.ClientCalls
import RangeLottery.Proofs.Step.Calls
import RangeLottery.Proofs.Step.ChecksFirst
import RangeLottery.Proofs.Step.Signature
