import ReviewPanel.Json.Writer
import ReviewPanel.Panel
import ReviewPanel.Config.Loading
import ReviewPanel.Proofs.Result
import ReviewPanel.Proofs.Interleavings
import ReviewPanel.Proofs.Compliance
import ReviewPanel.Proofs.Overrides
import ReviewPanel.Proofs.Chat
import ReviewPanel.Proofs.Replies
import ReviewPanel.Proofs.Counters
import ReviewPanel.Proofs.Requests
import ReviewPanel.Proofs.Validity
import ReviewPanel.Proofs.Registrations
import ReviewPanel.Proofs.Rounding
import ReviewPanel.Proofs.Deadlines
import ReviewPanel.Proofs.Documents
import ReviewPanel.Proofs.Fields
import ReviewPanel.Proofs.WrittenTemplates
import ReviewPanel.Proofs.WrittenValues
import ReviewPanel.Proofs.WrittenReports
import ReviewPanel.Proofs.Keys
import ReviewPanel.Proofs.Capabilities
import ReviewPanel.Proofs.Tallies
import ReviewPanel.Proofs.LineEnds
import ReviewPanel.Proofs.LineEndPlaces
import ReviewPanel.Proofs.LineEndPatterns
import ReviewPanel.Proofs.Reader
import ReviewPanel.Proofs.Fuel
import ReviewPanel.Proofs.LineEndDocuments
import ReviewPanel.Proofs.LineEndReviews
import ReviewPanel.Proofs.Verdicts
import ReviewPanel.Proofs.Keywords
import ReviewPanel.Proofs.WellFormed
import ReviewPanel.Proofs.Regressions
import ReviewPanel.Proofs.Effects
import ReviewPanel.Proofs.Requirements
import ReviewPanel.Proofs.TestFiles
import ReviewPanel.Proofs.TestCases
import ReviewPanel.Proofs.Names
import ReviewPanel.Proofs.Skeletons
import ReviewPanel.Proofs.Shadowing
import ReviewPanel.Proofs.Labels
import ReviewPanel.Proofs.ScanParts
import ReviewPanel.Proofs.Attempts
import ReviewPanel.Proofs.WrittenWords
