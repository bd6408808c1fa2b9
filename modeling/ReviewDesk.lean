import ReviewDesk.Http.Api
import ReviewDesk.Proofs.Conduct
import ReviewDesk.Settings.Basic
import ReviewDesk.Sql.Database
import ReviewDesk.Sql.Script
import ReviewDesk.Store.Rehearsal
import ReviewDesk.Proofs.Floor
import ReviewDesk.Proofs.Ledger
import ReviewDesk.Proofs.Finality
import ReviewDesk.Proofs.Soundness
import ReviewDesk.Proofs.Alone
import ReviewDesk.Proofs.Overwrites
import ReviewDesk.Proofs.Office
import ReviewDesk.Proofs.OneByOne
import ReviewDesk.Proofs.Choice
import ReviewDesk.Proofs.Outcomes
import ReviewDesk.Proofs.AllOrNothing
import ReviewDesk.Proofs.FirstCome
import ReviewDesk.Proofs.Changes
import ReviewDesk.Proofs.Transcript
import ReviewDesk.Proofs.Uniformity
import ReviewDesk.Proofs.Writes
import ReviewDesk.Proofs.RoundTrip
import ReviewDesk.Proofs.Membership
import ReviewDesk.Proofs.Frame
import ReviewDesk.Proofs.Apart
import ReviewDesk.Proofs.Effects
import ReviewDesk.Proofs.Spelling
import ReviewDesk.Proofs.Fetching
import ReviewDesk.Proofs.Tally
import ReviewDesk.Proofs.Contract
import ReviewDesk.Proofs.Visit
import ReviewDesk.Proofs.Quotation
import ReviewDesk.Proofs.Verbatim
import ReviewDesk.Proofs.Issuance
import ReviewDesk.Proofs.Opening
import ReviewDesk.Proofs.Refusals
import ReviewDesk.Proofs.Recovery
import ReviewDesk.Proofs.Services
import ReviewDesk.Proofs.Failures
import ReviewDesk.Proofs.Journal
import ReviewDesk.Proofs.Groups
import ReviewDesk.Proofs.Counting
import ReviewDesk.Proofs.Rows
import ReviewDesk.Proofs.Snapshots
import ReviewDesk.Proofs.Timestamps
import ReviewDesk.Proofs.Wire
import ReviewDesk.Proofs.Tokens
import ReviewDesk.Proofs.Passage
import ReviewDesk.Proofs.Objects
import ReviewDesk.Proofs.Decoding
import ReviewDesk.Proofs.Identifiers
import ReviewDesk.Proofs.Trimming
import ReviewDesk.Proofs.Variables
import ReviewDesk.Proofs.Complaints
import ReviewDesk.Proofs.Enrolment
import ReviewDesk.Proofs.Admission
