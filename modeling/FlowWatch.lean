import FlowWatch.Log.Event
import FlowWatch.Table.Geometry
import FlowWatch.Table.HeightIndex
import FlowWatch.Table.RowMetrics
import FlowWatch.Table.Window
import FlowWatch.Table.Anchor
import FlowWatch.Table.Filter
import FlowWatch.Table.OrderedView
import FlowWatch.Table.Selection
import FlowWatch.Table.Controller
import FlowWatch.Text.CharRanges
import FlowWatch.Text.Blank
import FlowWatch.Text.Extending
import FlowWatch.Text.Quoted
import FlowWatch.Text.CellWidth
import FlowWatch.Text.Cluster
import FlowWatch.Json.Reader
import FlowWatch.Json.Printer
import FlowWatch.Capture.Line
import FlowWatch.Files
import FlowWatch.Text.Numeral
import FlowWatch.Store
import FlowWatch.Capture.Source
import FlowWatch.Screen.Style
import FlowWatch.Screen.Palette
import FlowWatch.Screen.Area
import FlowWatch.Screen.Buffer
import FlowWatch.Screen.StyledLine
import FlowWatch.Screen.Columns
import FlowWatch.Screen.FlowTable
import FlowWatch.Screen.LiveIndicator
import FlowWatch.Screen.Layout
import FlowWatch.Screen.Terminal
import FlowWatch.Settings.Resolve
import FlowWatch.Keys
import FlowWatch.CommandLine
import FlowWatch.Log.Filter
import FlowWatch.Log.Record
import FlowWatch.Failure
import FlowWatch.App
import FlowWatch.Session
import FlowWatch.Program
import FlowWatch.Main
import FlowWatch.Proofs.HeightSums
import FlowWatch.Proofs.WindowCoverage
import FlowWatch.Proofs.SelectionVisibility
import FlowWatch.Proofs.Recompute
import FlowWatch.Proofs.Coherence
import FlowWatch.Proofs.RowGeometry
import FlowWatch.Proofs.LiveTail
import FlowWatch.Proofs.DerivedView
import FlowWatch.Proofs.VisibleRows
import FlowWatch.Proofs.WindowShape
import FlowWatch.Proofs.MaterializedRows
import FlowWatch.Proofs.LevelRows
import FlowWatch.Proofs.LinearWalk
import FlowWatch.Proofs.StoreOrder
import FlowWatch.Proofs.CompleteLines
import FlowWatch.Proofs.LogLines
import FlowWatch.Proofs.Tailing
import FlowWatch.Proofs.ScrollRequests
import FlowWatch.Proofs.SelectionFollowing
import FlowWatch.Proofs.TerminalModes
import FlowWatch.Proofs.SessionConsistency
import FlowWatch.Proofs.AppendBatches
import FlowWatch.Proofs.TornLines
import FlowWatch.Proofs.JsonRoundTrip
import FlowWatch.Proofs.Numerals
import FlowWatch.Proofs.StampRoundTrip
import FlowWatch.Proofs.WireRoundTrip
import FlowWatch.Proofs.HeightUpdates
import FlowWatch.Proofs.SyntheticHistory
import FlowWatch.Proofs.SyntheticPacing
import FlowWatch.Proofs.Redrawing
import FlowWatch.Proofs.FreshFrames
import FlowWatch.Proofs.MachineWords
import FlowWatch.Proofs.ArithmeticSafety
import FlowWatch.Proofs.LineDrawing
import FlowWatch.Proofs.PaintedRows
import FlowWatch.Proofs.FailedReads
import FlowWatch.Proofs.ReadOnce
import FlowWatch.Proofs.RepeatedNotifications
import FlowWatch.Proofs.TextWidth
import FlowWatch.Proofs.ColumnFitting
