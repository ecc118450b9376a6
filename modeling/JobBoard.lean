import JobBoard.Address.Fold
import JobBoard.Address.Host
import JobBoard.Address.Names
import JobBoard.Address.Punycode
import JobBoard.Address.Reader
import JobBoard.Board.Event
import JobBoard.Board.Fetch
import JobBoard.Board.Focus
import JobBoard.Board.Input
import JobBoard.Board.Keys
import JobBoard.Board.Panes
import JobBoard.Board.Session
import JobBoard.Board.State
import JobBoard.CommandLine.Grammar
import JobBoard.CommandLine.Help
import JobBoard.CommandLine.Options
import JobBoard.CommandLine.Reader
import JobBoard.CommandLine.Run
import JobBoard.Decimal
import JobBoard.Effect
import JobBoard.Environment
import JobBoard.Filter.Basic
import JobBoard.Filter.Query
import JobBoard.Filter.Record
import JobBoard.Job.Dashboard
import JobBoard.Job.Detail
import JobBoard.Job.Page
import JobBoard.Job.Record
import JobBoard.Job.Status
import JobBoard.Json.Fields
import JobBoard.Json.Real
import JobBoard.Json.Tree
import JobBoard.Json.Value
import JobBoard.Listing.Cursor
import JobBoard.Listing.FilterDraft
import JobBoard.Listing.HeightTree
import JobBoard.Listing.JobList
import JobBoard.Listing.Measure
import JobBoard.Listing.Pager
import JobBoard.Listing.Prefetch
import JobBoard.Listing.Request
import JobBoard.Listing.RowCache
import JobBoard.Listing.RowHeights
import JobBoard.Listing.RowText
import JobBoard.Listing.Viewport
import JobBoard.Main
import JobBoard.Proofs.ActiveRow
import JobBoard.Proofs.BoardRun
import JobBoard.Proofs.CursorRun
import JobBoard.Proofs.DrawnHeights
import JobBoard.Proofs.HeightTree
import JobBoard.Proofs.HitTest
import JobBoard.Proofs.LaidOut
import JobBoard.Proofs.ListRun
import JobBoard.Proofs.LowBit
import JobBoard.Proofs.Measuring
import JobBoard.Proofs.PageLog
import JobBoard.Proofs.RowCache
import JobBoard.Proofs.RowHeights
import JobBoard.Proofs.TableLines
import JobBoard.Proofs.TrailingEdge
import JobBoard.Proofs.Viewport
import JobBoard.QuietTimer
import JobBoard.Screen.Area
import JobBoard.Screen.Columns
import JobBoard.Screen.Cell
import JobBoard.Screen.Color
import JobBoard.Screen.Frame
import JobBoard.Screen.Glyph
import JobBoard.Screen.Paragraph
import JobBoard.Screen.Scrollbar
import JobBoard.Screen.Style
import JobBoard.Screen.Table
import JobBoard.Screen.Text
import JobBoard.Screen.Wrap
import JobBoard.Service.Answer
import JobBoard.Service.Client
import JobBoard.Service.Credentials
import JobBoard.Service.Error
import JobBoard.Service.Held
import JobBoard.Service.Source
import JobBoard.Service.Wire
import JobBoard.Settings
import JobBoard.Terminal.Input
import JobBoard.Terminal.Output
import JobBoard.Text.Base64
import JobBoard.Text.Blank
import JobBoard.Text.Cluster
import JobBoard.Text.Fit
import JobBoard.Text.Form
import JobBoard.Text.Property
import JobBoard.Text.Redact
import JobBoard.Text.Utf8
import JobBoard.Text.Width
import JobBoard.Theme.Basic
import JobBoard.Theme.Palette
import JobBoard.Time.Date
import JobBoard.Time.Instant
import JobBoard.Time.Reader
import JobBoard.View.Counts
import JobBoard.View.Layout
import JobBoard.View.ListPanel
import JobBoard.View.Picture
import JobBoard.View.Place
import JobBoard.View.RecordLines
import JobBoard.View.Throbber
import JobBoard.Word
import JobBoard.Proofs.TreeBuild
import JobBoard.Proofs.RowList
import JobBoard.Proofs.CompleteListing
import JobBoard.Proofs.EdgeRequests
import JobBoard.Proofs.StartFilter
import JobBoard.Proofs.FilterSync
import JobBoard.Proofs.FormText
import JobBoard.Proofs.QueryReading
import JobBoard.Proofs.ListParts
import JobBoard.Proofs.OwnTexts
import JobBoard.Proofs.ScrollReach
import JobBoard.Proofs.VisibleRows
import JobBoard.Proofs.OpenFetches
import JobBoard.Proofs.QuietTime
import JobBoard.Proofs.Redaction
import JobBoard.Proofs.RowLookup
import JobBoard.Proofs.ScrollOffset
import JobBoard.Proofs.PreparedRows
import JobBoard.Proofs.AppendedPage
import JobBoard.Proofs.Truncation
import JobBoard.Proofs.DrawnText
import JobBoard.Proofs.RecordReach
import JobBoard.Proofs.AddressPath
import JobBoard.Proofs.AddressHost
import JobBoard.Proofs.AddressReading
import JobBoard.Proofs.RequestAddress
import JobBoard.Proofs.Calendar
import JobBoard.Proofs.DecimalText
import JobBoard.Proofs.InstantText
import JobBoard.Proofs.JsonLexical
import JobBoard.Proofs.JsonGrammar
import JobBoard.Proofs.JsonText
import JobBoard.Proofs.RecordFields
import JobBoard.Proofs.RecordText
import JobBoard.Proofs.JsonInsertion
import JobBoard.Proofs.NullFields
import JobBoard.Proofs.ExactSums
import JobBoard.Proofs.CountsLoading
