import MiniSniffer.Foundation.SerialNumber
import MiniSniffer.Foundation.Machine
import MiniSniffer.Foundation.Coverage
import MiniSniffer.Tcp.StreamBuffer
import MiniSniffer.Tcp.Reassembly
import MiniSniffer.Tcp.StreamOrder
import MiniSniffer.Tcp.Overflow
import MiniSniffer.App.ByteReader
import MiniSniffer.App.Decoder
import MiniSniffer.Capture.StreamDecode
import MiniSniffer.Flow.Lookup
import MiniSniffer.Tcp.ClosingFlags
import MiniSniffer.Capture.Connection
import MiniSniffer.Capture.GracefulClose
import MiniSniffer.Foundation.Intervals
import MiniSniffer.Fragment.Consistency
import MiniSniffer.Fragment.Inversion
import MiniSniffer.Fragment.Truncation
import MiniSniffer.App.Metadata
import MiniSniffer.Capture.Accounting
import MiniSniffer.Capture.Baseline
import MiniSniffer.Capture.Eviction
import MiniSniffer.Capture.FlowMap
import MiniSniffer.Capture.Isolation
import MiniSniffer.Capture.Loop
import MiniSniffer.Capture.Memory
import MiniSniffer.Fragment.Invariant
import MiniSniffer.Capture.PrefilterRuns
import MiniSniffer.Capture.Funnel
import MiniSniffer.Capture.StreamStatus
import MiniSniffer.Tcp.ResultCodes
import MiniSniffer.Tcp.StreamQueue
import MiniSniffer.Tcp.TrimBounds
import MiniSniffer.Cli.Arguments
import MiniSniffer.Cli.HexPattern
import MiniSniffer.Cli.Numbers
import MiniSniffer.Cli.Validation
import MiniSniffer.App.Agreement
import MiniSniffer.App.DnsGrammar
import MiniSniffer.App.AlpnFilter
import MiniSniffer.App.DhcpOptions
import MiniSniffer.App.HttpMessages
import MiniSniffer.App.HttpStartLines
import MiniSniffer.App.QuicInitial
import MiniSniffer.Parser.PayloadBounds
import MiniSniffer.Parser.ExtensionChain
import MiniSniffer.Output.CsvRecords
import MiniSniffer.Output.EscapedText
import MiniSniffer.Output.JsonObjects
import MiniSniffer.Capture.Observation
import MiniSniffer.Capture.Announcements
import MiniSniffer.Capture.Retention
import MiniSniffer.Capture.ConsoleReport
import MiniSniffer.Capture.CaptureRecords
import MiniSniffer.Capture.FragmentedDatagrams
import MiniSniffer.Capture.Tallies
import MiniSniffer.Cli.FilterOptions
import MiniSniffer.Program
import MiniSniffer.Capture.LogFile
