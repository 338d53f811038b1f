import Tombola.Chain.Scenario
import Tombola.Main
import Tombola.Proofs.Accepted.Settle
import Tombola.Proofs.Ledger
import Tombola.Proofs.Outcome
import Tombola.Proofs.Phase
import Tombola.Proofs.Table
import Tombola.Proofs.Timestamp
import Tombola.Proofs.Value
import Tombola.Wire.Chain
import Tombola.Proofs.Accepted.Settings
import Tombola.Proofs.History
import Tombola.Proofs.Store
import Tombola.Proofs.Change
import Tombola.Proofs.Books
import Tombola.Proofs.Escrow
import Tombola.Proofs.Stuck
import Tombola.Proofs.Job
import Tombola.Proofs.Awaited
import Tombola.Proofs.OnSale
import Tombola.Proofs.Requests
import Tombola.Proofs.Settlement
import Tombola.Proofs.Winner
import Tombola.Proofs.LifeCycle
import Tombola.Proofs.Refund
import Tombola.Proofs.Repayment
import Tombola.Proofs.Payout
import Tombola.Proofs.Delivery
import Tombola.Proofs.Prizes
import Tombola.Proofs.Chain.Titles
import Tombola.Proofs.Chain.Custody
import Tombola.Proofs.Timeout
import Tombola.Proofs.Fairness
import Tombola.Proofs.Entries
import Tombola.Proofs.Refusals
import Tombola.Proofs.Integrity
import Tombola.Proofs.Isolation
import Tombola.Proofs.Authority
import Tombola.Proofs.WellFormed
import Tombola.Proofs.Attached
import Tombola.Proofs.Configuration
import Tombola.Proofs.Locks
import Tombola.Proofs.Deposit
import Tombola.Proofs.Outgoing
import Tombola.Proofs.Paging
import Tombola.Proofs.RaffleListing
import Tombola.Proofs.TicketListing
import Tombola.Proofs.Tally
import Tombola.Proofs.SoldOut
import Tombola.Proofs.ExactPayment
import Tombola.Proofs.Modification
import Tombola.Proofs.FirstTicket
import Tombola.Proofs.Proceeds
import Tombola.Proofs.Identity
import Tombola.Proofs.Wire.Request
import Tombola.Proofs.Attempts
