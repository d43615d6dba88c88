import Minigame.Json.Alike
import Minigame.Main
import Minigame.Proofs.Json.Parsed
import Minigame.Proofs.Patch.Readings
import Minigame.Proofs.Patch.Repetition
import Minigame.Proofs.Proposal.Transparency
import Minigame.Proofs.Session.Calls
import Minigame.Proofs.Page.Filled
import Minigame.Proofs.Session.Interleaving
import Minigame.Proofs.Session.Soundness
import Minigame.Proofs.Session.Atomicity
import Minigame.Proofs.Patch.Frame
import Minigame.Proofs.Proposal.Seeding
import Minigame.Proofs.Session.Documents
import Minigame.Proofs.Session.Flags
import Minigame.Proofs.Session.Separation
import Minigame.Proofs.Session.Summary
import Minigame.Proofs.Session.Publication
import Minigame.Proofs.Proposal.Bubbles
import Minigame.Proofs.Session.Agreement
import Minigame.Proofs.Float.Rounding
import Minigame.Proofs.Float.Size
import Minigame.Proofs.Float.Packing
import Minigame.Proofs.Float.Order
import Minigame.Proofs.Survival.Schedule
import Minigame.Proofs.Survival.Play
import Minigame.Proofs.Survival.Windows
import Minigame.Proofs.Path.Text
import Minigame.Proofs.Survival.Bounds
import Minigame.Proofs.Page.Marks
import Minigame.Proofs.Page.Tags
import Minigame.Proofs.Survival.Pops
import Minigame.Proofs.Patch.Written
import Minigame.Proofs.Proposal.Key
import Minigame.Proofs.Survival.Record
import Minigame.Proofs.Proposal.Fallback
import Minigame.Proofs.Survival.Counts
import Minigame.Proofs.Page.Literal
import Minigame.Proofs.Patch.Settled
import Minigame.Proofs.Proposal.Convergence
import Minigame.Proofs.Float.Product
import Minigame.Proofs.Decimal.Nearest
import Minigame.Proofs.Json.Number
import Minigame.Proofs.Design.Ranges
import Minigame.Proofs.Patch.Envelope
import Minigame.Proofs.Patch.Surroundings
import Minigame.Proofs.Proposal.Cosmetic
import Minigame.Proofs.Design.Strict
import Minigame.Proofs.Proposal.CountPhrases
import Minigame.Proofs.Proposal.SkinNoun
import Minigame.Proofs.Proposal.DirectMode
import Minigame.Proofs.Survival.Taps
import Minigame.Proofs.Session.SummaryLength
import Minigame.Proofs.Page.Dispatch
import Minigame.Proofs.Digest.Hex
