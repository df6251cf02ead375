import CommitCheck.Json.Printer
import CommitCheck.Main
import CommitCheck.Record.Build
import CommitCheck.Proofs.Cli.Status
import CommitCheck.Proofs.Cli.Verdict
import CommitCheck.Linter.Session
import CommitCheck.Proofs.Linter.Lint
import CommitCheck.Proofs.Linter.Registry
import CommitCheck.Proofs.Run.Loop
import CommitCheck.Proofs.Linter.Batch
import CommitCheck.Proofs.Number.Binary64
import CommitCheck.Proofs.Files
import CommitCheck.Proofs.Number.Decimal
import CommitCheck.Proofs.Settings.Basic
import CommitCheck.Proofs.Settings.File
import CommitCheck.Settings.Session
import CommitCheck.Proofs.Settings.Session
import CommitCheck.Proofs.Tracker.Address
import CommitCheck.Proofs.Rule.HeaderFormat
import CommitCheck.Proofs.Linter.Observers
import CommitCheck.Proofs.Cli.Context
import CommitCheck.Proofs.Cli.Secret
import CommitCheck.Proofs.Commit.Search
import CommitCheck.Proofs.Settings.Legible
import CommitCheck.Proofs.Settings.Override
import CommitCheck.Proofs.Settings.Precedence
import CommitCheck.Proofs.Settings.Sources
import CommitCheck.Proofs.Commit.Message
import CommitCheck.Proofs.Console.Faithful
import CommitCheck.Proofs.Cli.Markup
import CommitCheck.Proofs.Cli.Listing
import CommitCheck.Proofs.Cli.Origin
import CommitCheck.Proofs.Cli.Creating
import CommitCheck.Proofs.Commit.Layout
import CommitCheck.Proofs.Cli.Edited
import CommitCheck.Proofs.Version.Announcement
import CommitCheck.Proofs.Commit.FirstLine
import CommitCheck.Proofs.Observer.Log
