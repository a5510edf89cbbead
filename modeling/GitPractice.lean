import GitPractice.Main
import GitPractice.Proofs.Offer
import GitPractice.Proofs.Run
import GitPractice.Proofs.CommitGraph
import GitPractice.Proofs.Head
import GitPractice.Proofs.Files
import GitPractice.Proofs.Guards
import GitPractice.Proofs.Line
import GitPractice.Proofs.Replay
import GitPractice.Proofs.HeadMode
import GitPractice.Proofs.OpaqueIds
import GitPractice.Proofs.ShellFaults
import GitPractice.Proofs.Dispatch
import GitPractice.Proofs.Growth
import GitPractice.Proofs.Overlap
import GitPractice.Proofs.Log
import GitPractice.Proofs.ShellLines
import GitPractice.Proofs.Dangling
import GitPractice.Proofs.Scripts
import GitPractice.Proofs.Status
import GitPractice.Proofs.GraphLayout
import GitPractice.Proofs.Coercion
import GitPractice.Proofs.Targets
import GitPractice.Proofs.Overrides
import GitPractice.Proofs.Loading
import GitPractice.Proofs.Paths
import GitPractice.Proofs.Writing
import GitPractice.Proofs.FileTexts
import GitPractice.Proofs.Layers
import GitPractice.Proofs.Saving
import GitPractice.Proofs.Assignment
import GitPractice.Proofs.VariableOrder
import GitPractice.Proofs.HeadArrow
import GitPractice.Proofs.JsonReading
import GitPractice.Proofs.RecordLines
import GitPractice.Proofs.Precedence
import GitPractice.Proofs.Resets
import GitPractice.Proofs.Checkout
import GitPractice.Proofs.Destinations
import GitPractice.Proofs.FirstParents
import GitPractice.Proofs.LogText
import GitPractice.Proofs.Restaging
import GitPractice.Proofs.Messages
import GitPractice.Proofs.StatusText
import GitPractice.Proofs.FileAccount
import GitPractice.Proofs.Hits
import GitPractice.Proofs.LiteralTables
import GitPractice.Proofs.Export
import GitPractice.Proofs.Reachable
import GitPractice.Proofs.FreshIds
import GitPractice.Proofs.Defaults
