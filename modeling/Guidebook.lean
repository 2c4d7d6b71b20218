import Guidebook.Invocation
import Guidebook.Main
import Guidebook.Proofs.Checked
import Guidebook.Proofs.Command.Grammar
import Guidebook.Proofs.Dialogue.Exchange
import Guidebook.Proofs.Dialogue.Script
import Guidebook.Proofs.Document.Column
import Guidebook.Proofs.Document.Comment
import Guidebook.Proofs.Document.Extent
import Guidebook.Proofs.Document.Field
import Guidebook.Proofs.Document.Items
import Guidebook.Proofs.Document.Join
import Guidebook.Proofs.Document.Printer
import Guidebook.Proofs.Document.Reach
import Guidebook.Proofs.Document.Single
import Guidebook.Proofs.Document.Readers
import Guidebook.Proofs.Document.RoundTrip
import Guidebook.Proofs.Document.Shape
import Guidebook.Proofs.Document.Stream
import Guidebook.Proofs.Guide.Progress
import Guidebook.Proofs.Guide.Tables
import Guidebook.Proofs.Guide.Tiling
import Guidebook.Proofs.Pager.Pages
import Guidebook.Proofs.Record.Grammar
import Guidebook.Proofs.Session.Commands
import Guidebook.Proofs.Session.Course
import Guidebook.Proofs.Session.Events
import Guidebook.Proofs.Session.Move
import Guidebook.Proofs.Session.Progress
import Guidebook.Proofs.Session.Reckoning
import Guidebook.Proofs.Text.Lines
import Guidebook.Proofs.Work.Events
import Guidebook.Proofs.Session.Failures
import Guidebook.Proofs.Json.Quoted
import Guidebook.Proofs.Json.Written
import Guidebook.Proofs.Json.Printed
import Guidebook.Proofs.Program.Embedding
import Guidebook.Proofs.Program.Trailer
import Guidebook.Proofs.Session.Recovery
import Guidebook.Proofs.Program.Startup
import Guidebook.Proofs.Path.Names
import Guidebook.Proofs.FileTree.Keeping
import Guidebook.Proofs.FileTree.Moving
import Guidebook.Proofs.History.Stored
import Guidebook.Proofs.History.Deeds
import Guidebook.Proofs.History.Unread
import Guidebook.Proofs.Work.History
import Guidebook.Proofs.Session.History
import Guidebook.Proofs.FileTree.Files
import Guidebook.Proofs.Text.Number
import Guidebook.Proofs.FileTree.Temporary
import Guidebook.Proofs.Work.Scratch
import Guidebook.Proofs.Session.Picking
import Guidebook.Proofs.Session.Listing
import Guidebook.Proofs.Buffer.Snippet
import Guidebook.Proofs.Stash.Contents
import Guidebook.Proofs.Session.Stashing
import Guidebook.Proofs.Text.Trim
import Guidebook.Proofs.Input.Plain
import Guidebook.Proofs.Interview.Typed
import Guidebook.Proofs.Interview.Records
import Guidebook.Proofs.Interview.Script
import Guidebook.Proofs.Session.Pages
import Guidebook.Proofs.Text.Bare
import Guidebook.Proofs.Message.Styled
import Guidebook.Proofs.FileTree.Bare
import Guidebook.Proofs.Work.Bare
import Guidebook.Proofs.Session.Bare
import Guidebook.Proofs.Input.Bare
import Guidebook.Proofs.Session.Look
import Guidebook.Proofs.Session.Unedited
import Guidebook.Proofs.Pager.Cutting
import Guidebook.Proofs.Input.Editing
import Guidebook.Proofs.Input.Recall
import Guidebook.Proofs.Document.Position
import Guidebook.Proofs.Document.Quoted
import Guidebook.Proofs.Program.Identity
import Guidebook.Proofs.Program.Writing
