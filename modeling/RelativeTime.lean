import RelativeTime.Calendar.Basic
import RelativeTime.Calendar.Date
import RelativeTime.Calendar.Parts
import RelativeTime.Calendar.Timeline
import RelativeTime.Calendar.WallTime
import RelativeTime.Clause.Basic
import RelativeTime.Clause.Reading
import RelativeTime.Clause.Record
import RelativeTime.Clause.Window
import RelativeTime.Code
import RelativeTime.CommandLine.Arguments
import RelativeTime.CommandLine.Console
import RelativeTime.CommandLine.Markup
import RelativeTime.CommandLine.Run
import RelativeTime.CommandLine.Terminal
import RelativeTime.Data.Basic
import RelativeTime.Data.Printer
import RelativeTime.Data.Shortest
import RelativeTime.Evaluation
import RelativeTime.Evaluation.Exact
import RelativeTime.Expression
import RelativeTime.Failure
import RelativeTime.Iso.Printer
import RelativeTime.Iso.Reader
import RelativeTime.Logging
import RelativeTime.Main
import RelativeTime.Proofs.Caching
import RelativeTime.Proofs.Following
import RelativeTime.Proofs.Continuing
import RelativeTime.Proofs.Joining
import RelativeTime.Proofs.LocalReading
import RelativeTime.Proofs.Printing
import RelativeTime.Proofs.Range
import RelativeTime.Proofs.Records
import RelativeTime.Proofs.Segmentation
import RelativeTime.Proofs.TokenKind
import RelativeTime.Proofs.Week
import RelativeTime.Proofs.Zones
import RelativeTime.Settings.Basic
import RelativeTime.Settings.Store
import RelativeTime.Text.Blank
import RelativeTime.Text.Emoji
import RelativeTime.Text.Printable
import RelativeTime.Text.Quoted
import RelativeTime.Text.Small
import RelativeTime.Text.Width
import RelativeTime.Token.Basic
import RelativeTime.Token.Scanner
import RelativeTime.Token.Segmentation
import RelativeTime.Tracing
import RelativeTime.Zone
import RelativeTime.Zone.Known
import RelativeTime.Proofs.Durations
import RelativeTime.Proofs.Months
import RelativeTime.Proofs.Filling
import RelativeTime.Proofs.Tables
import RelativeTime.Proofs.Showing
import RelativeTime.Proofs.Requests
import RelativeTime.Proofs.FrontEnds
import RelativeTime.Proofs.Scanning
import RelativeTime.Proofs.Tiling
import RelativeTime.Proofs.Absorption
import RelativeTime.Proofs.WeekClauses
import RelativeTime.Proofs.Periods
import RelativeTime.Proofs.Steps
import RelativeTime.Proofs.RealTime
import RelativeTime.Proofs.Sessions
import RelativeTime.Proofs.OpenClauses
import RelativeTime.Proofs.PrintedStamps
