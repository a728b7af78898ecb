import ContentEngine.Configuration.Document
import ContentEngine.Rehearsal.Report
import ContentEngine.Proofs.Run.Boot
import ContentEngine.Proofs.Run.JobRecord
import ContentEngine.Proofs.Run.Connections
import ContentEngine.Proofs.Run.Tracking
import ContentEngine.Proofs.Expression.Filling
import ContentEngine.Proofs.Expression.Literals
import ContentEngine.Proofs.Expression.Widening
import ContentEngine.Proofs.Run.Announced
import ContentEngine.Proofs.Store.Surgery
import ContentEngine.Proofs.Run.Intake
import ContentEngine.Proofs.Run.Mutations
import ContentEngine.Proofs.Run.States
import ContentEngine.Proofs.Rule.Verdict
import ContentEngine.Proofs.Run.Content
import ContentEngine.Proofs.Run.BootErrors
import ContentEngine.Proofs.Run.Graphs
import ContentEngine.Proofs.Run.Resolution
import ContentEngine.Proofs.Run.Registration
import ContentEngine.Proofs.Run.Sequences
import ContentEngine.Proofs.Configuration.Children
import ContentEngine.Proofs.Configuration.Bags
import ContentEngine.Proofs.Store.Canonical
import ContentEngine.Proofs.Lifecycle.Owners
import ContentEngine.Proofs.Run.Attachment
import ContentEngine.Proofs.Run.Permits
import ContentEngine.Proofs.Run.JobProblems
import ContentEngine.Proofs.Message
import ContentEngine.Proofs.Source.Handout
import ContentEngine.Proofs.Run.ProblemLogs
