import CallNotice.Main
import CallNotice.Proofs.Appending
import CallNotice.Proofs.CallLog.Refinement
import CallNotice.Proofs.Decoding
import CallNotice.Proofs.Discretion.Host
import CallNotice.Proofs.Host.Recording
import CallNotice.Proofs.Host.Posting
import CallNotice.Proofs.Host.Tally
import CallNotice.Proofs.Notification.Draft
import CallNotice.Proofs.Notification.Reduction
import CallNotice.Proofs.Notification.Refinement
import CallNotice.Proofs.Files.Bytes
import CallNotice.Proofs.Refusal
import CallNotice.Proofs.CallLog.Updating
import CallNotice.Proofs.CommandLine.DryRun
import CallNotice.Proofs.Host.Delivery
import CallNotice.Proofs.Host.Clearing
import CallNotice.Proofs.Damage
import CallNotice.Proofs.CallLog.Exactness
import CallNotice.Proofs.CallLog.Ids
import CallNotice.Proofs.CommandLine.Replay
import CallNotice.Proofs.Handle.Grammar
import CallNotice.Proofs.Host.Naming
import CallNotice.Proofs.CommandLine.Listing
import CallNotice.Proofs.Host.Length
import CallNotice.Proofs.Phrases
import CallNotice.Proofs.Bidi
import CallNotice.Proofs.CommandLine.Lines
import CallNotice.Proofs.Host.Callers
