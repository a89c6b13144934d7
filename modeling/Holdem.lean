import Holdem.Configuration.Json
import Holdem.Main
import Holdem.Proofs.Command.Typing
import Holdem.Proofs.Coordinator.Message
import Holdem.Proofs.Ledger.Submission
import Holdem.Proofs.Poll.Rendering
import Holdem.Proofs.Procedure.Discipline
import Holdem.Proofs.Session.Abiding
import Holdem.Proofs.Session.AcceptedBet
import Holdem.Proofs.Session.Authentication
import Holdem.Proofs.Session.Board
import Holdem.Proofs.Session.Confirmation
import Holdem.Proofs.Session.Conservation
import Holdem.Proofs.Session.Course
import Holdem.Proofs.Session.Discipline
import Holdem.Proofs.Session.Ending
import Holdem.Proofs.Session.Exclusion
import Holdem.Proofs.Session.Failure
import Holdem.Proofs.Session.FollowUp
import Holdem.Proofs.Session.GrantedJoin
import Holdem.Proofs.Session.Hearing
import Holdem.Proofs.Session.HoleCards
import Holdem.Proofs.Session.LateAnswer
import Holdem.Proofs.Session.Lawful
import Holdem.Proofs.Session.LocalChange
import Holdem.Proofs.Session.Merging
import Holdem.Proofs.Session.NewHand
import Holdem.Proofs.Session.Nonces
import Holdem.Proofs.Session.OneTable
import Holdem.Proofs.Session.Operation
import Holdem.Proofs.Session.Payout
import Holdem.Proofs.Session.Places
import Holdem.Proofs.Session.PublicPolls
import Holdem.Proofs.Session.Refusal
import Holdem.Proofs.Session.Requests
import Holdem.Proofs.Session.SeatNumbers
import Holdem.Proofs.Session.Selection
import Holdem.Proofs.Session.Settlement
import Holdem.Proofs.Session.ShownTurn
import Holdem.Proofs.Session.Sighting
import Holdem.Proofs.Session.SignedLine
import Holdem.Proofs.Session.SoloRound
import Holdem.Proofs.Session.StaleCards
import Holdem.Proofs.Session.Start
import Holdem.Proofs.Session.StreetInFlight
import Holdem.Proofs.Session.SubmittedBet
import Holdem.Proofs.Session.Turns
import Holdem.Proofs.Session.Undivided
import Holdem.Proofs.Session.Winner
import Holdem.Proofs.Table.Betting
import Holdem.Proofs.Table.Board
import Holdem.Proofs.Table.CompletePoll
import Holdem.Proofs.Table.Completion
import Holdem.Proofs.Table.Hand
import Holdem.Proofs.Table.Level
import Holdem.Proofs.Table.Places
import Holdem.Proofs.Table.Polled
import Holdem.Proofs.Table.Reseating
import Holdem.Proofs.Table.Roster
import Holdem.Proofs.Table.Seats
import Holdem.Proofs.Table.Secrets
import Holdem.Proofs.Table.Supply
import Holdem.Proofs.Table.Turn
import Holdem.Session.Json
import Holdem.Table.Json
