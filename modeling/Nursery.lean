import Nursery.Entry.Attribute
import Nursery.Entry.Wrap
import Nursery.Machine.Session
import Nursery.Pool
import Nursery.Unchecked
import Nursery.Proofs.Line.Change
import Nursery.Proofs.Reachable
import Nursery.Proofs.Line.Plain
import Nursery.Proofs.Line.Wait
import Nursery.Proofs.Line.Body
import Nursery.Proofs.Line.Handler
import Nursery.Proofs.Step.Agenda
import Nursery.Proofs.Step.Worker
import Nursery.Proofs.Invariant.Formed
import Nursery.Proofs.Invariant.Own
import Nursery.Proofs.Invariant.Seat
import Nursery.Proofs.Invariant.Tether
import Nursery.Proofs.Invariant.Dispatch
import Nursery.Proofs.Invariant.Housed
import Nursery.Proofs.Invariant.Kinship
import Nursery.Proofs.Invariant.Hushed
import Nursery.Proofs.Invariant.Wakeful
import Nursery.Proofs.Invariant.Sound
import Nursery.Proofs.Invariant.Lasts
import Nursery.Proofs.Completion
import Nursery.Proofs.Wakeup
import Nursery.Proofs.Invariant.Halted
import Nursery.Proofs.Invariant.Carried
import Nursery.Proofs.Schedule
import Nursery.Proofs.Mailbox
import Nursery.Proofs.Invariant.Ranked
import Nursery.Proofs.Exclusion
import Nursery.Proofs.Trail
import Nursery.Proofs.Passage
import Nursery.Proofs.Invariant.Joined
import Nursery.Proofs.Replies
import Nursery.Proofs.Course
import Nursery.Proofs.Fold
import Nursery.Proofs.Line.Request
import Nursery.Proofs.Invariant.Spares
import Nursery.Proofs.Invariant.Spread
import Nursery.Proofs.Cancellation
import Nursery.Proofs.Lineage
import Nursery.Proofs.Program.Evaluation
import Nursery.Proofs.Program.Turn
import Nursery.Proofs.Program.Workplace
import Nursery.Proofs.Program.Staff
import Nursery.Proofs.Program.Load
import Nursery.Proofs.Program.Fate
import Nursery.Proofs.Program.Rest
import Nursery.Proofs.Program.Errand
import Nursery.Proofs.Group.Failure
import Nursery.Proofs.Delivery.Testimony
import Nursery.Proofs.Backlog.Starts
import Nursery.Proofs.Resolution
import Nursery.Proofs.Shutdown
import Nursery.Proofs.Group.Release
import Nursery.Proofs.Group.Maker
import Nursery.Proofs.Group.Joining
import Nursery.Proofs.Group.Undrained
import Nursery.Proofs.Handle.Inert
import Nursery.Proofs.Polling.Latest
import Nursery.Proofs.Letter.Judged
import Nursery.Proofs.Entry.Attribute
import Nursery.Proofs.Entry.Wrap
import Nursery.Proofs.Settings
import Nursery.Proofs.Requeue.Turn
import Nursery.Proofs.Tree.Forest
