import Blueprint.Assistant.Tool
import Blueprint.Layout.Place
import Blueprint.Main
import Blueprint.Notice
import Blueprint.Proofs.Dsl.Account
import Blueprint.Proofs.Dsl.Frames
import Blueprint.Proofs.Dsl.PositionRoundTrip
import Blueprint.Proofs.Dsl.Quoting
import Blueprint.Proofs.Dsl.ViewRoundTrip
import Blueprint.Proofs.Edit.ViewsLeft
import Blueprint.Proofs.Service.Integrity
import Blueprint.Proofs.Session.Reopened
import Blueprint.Proofs.Session.Timeline
import Blueprint.Session.Call
import Blueprint.Validation.Candidate
import Blueprint.Proofs.Validation.Agreement
import Blueprint.Proofs.Service.Anchors
import Blueprint.Proofs.Session.Remembered
import Blueprint.Proofs.Service.Steps
import Blueprint.Proofs.Schema.OlderNames
import Blueprint.Proofs.Dsl.Owners
import Blueprint.Proofs.Service.Keys
import Blueprint.Proofs.Service.Exports
import Blueprint.Proofs.Edit.Subtree
import Blueprint.Proofs.Dsl.DeploymentViews
import Blueprint.Proofs.Identifier.Kept
import Blueprint.Proofs.Dsl.NamedLines
import Blueprint.Proofs.Layout.Latest
import Blueprint.Proofs.Model.Rooted
import Blueprint.Proofs.Dsl.Blocks
import Blueprint.Proofs.Dsl.Skipped
import Blueprint.Proofs.Dsl.Moved
import Blueprint.Proofs.Dsl.Parts
import Blueprint.Proofs.Edit.RenamedViews
import Blueprint.Proofs.Session.Recorded
import Blueprint.Proofs.Schema.Agreement
import Blueprint.Proofs.Dsl.Directives
import Blueprint.Proofs.Dsl.Asides
import Blueprint.Proofs.Service.Opened
import Blueprint.Proofs.Session.Snapshots
