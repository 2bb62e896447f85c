import Switchboard.Bench
import Switchboard.Board
import Switchboard.Board.Change
import Switchboard.Board.Channels
import Switchboard.Board.Sync
import Switchboard.Board.Things
import Switchboard.Bridge
import Switchboard.Cache
import Switchboard.CommandLine
import Switchboard.Config
import Switchboard.Config.Document
import Switchboard.Decimal
import Switchboard.Duration
import Switchboard.Duration.Reading
import Switchboard.Error
import Switchboard.Event
import Switchboard.Exposition
import Switchboard.FileTree
import Switchboard.Hex
import Switchboard.Http.Client
import Switchboard.Http.Credentials
import Switchboard.Http.Domain
import Switchboard.Http.Domain.Folding
import Switchboard.Http.Domain.Punycode
import Switchboard.Http.Exchange
import Switchboard.Http.Host
import Switchboard.Http.Path
import Switchboard.Http.Percent
import Switchboard.Http.Response
import Switchboard.Http.Target
import Switchboard.Http.Url
import Switchboard.Json.Double
import Switchboard.Json.Fault
import Switchboard.Json.Fields
import Switchboard.Json.Layout
import Switchboard.Json.Numeral
import Switchboard.Json.Reader
import Switchboard.Json.Text
import Switchboard.Json.Token
import Switchboard.Json.Value
import Switchboard.Json.Writer
import Switchboard.Main
import Switchboard.Ordinal
import Switchboard.Page
import Switchboard.Page.Order
import Switchboard.Page.Query
import Switchboard.Placement
import Switchboard.Proofs.Admission
import Switchboard.Proofs.Agreement
import Switchboard.Proofs.Amendments
import Switchboard.Proofs.Arrangement
import Switchboard.Proofs.Attendance
import Switchboard.Proofs.Audit
import Switchboard.Proofs.Authority
import Switchboard.Proofs.Balance
import Switchboard.Proofs.CacheAnswers
import Switchboard.Proofs.ChannelPages
import Switchboard.Proofs.Chronicle
import Switchboard.Proofs.ConfigText
import Switchboard.Proofs.ConnectOrder
import Switchboard.Proofs.Contents
import Switchboard.Proofs.Convergence
import Switchboard.Proofs.CounterBounds
import Switchboard.Proofs.Creation
import Switchboard.Proofs.Defaults
import Switchboard.Proofs.Delivery
import Switchboard.Proofs.Documents
import Switchboard.Proofs.DurationText
import Switchboard.Proofs.Entries
import Switchboard.Proofs.Enumeration
import Switchboard.Proofs.FailFast
import Switchboard.Proofs.FreshIdentifiers
import Switchboard.Proofs.HeaderOrder
import Switchboard.Proofs.Indifference
import Switchboard.Proofs.Issuance
import Switchboard.Proofs.Keys
import Switchboard.Proofs.Layouts
import Switchboard.Proofs.Ledger
import Switchboard.Proofs.Links
import Switchboard.Proofs.Operations
import Switchboard.Proofs.Pace
import Switchboard.Proofs.Paging
import Switchboard.Proofs.Recollection
import Switchboard.Proofs.Register
import Switchboard.Proofs.Rejections
import Switchboard.Proofs.Rekeying
import Switchboard.Proofs.Rendering
import Switchboard.Proofs.Rows
import Switchboard.Proofs.Saving
import Switchboard.Proofs.Service
import Switchboard.Proofs.Sorting
import Switchboard.Proofs.Standstill
import Switchboard.Proofs.Startup
import Switchboard.Proofs.TableContents
import Switchboard.Proofs.TrailingDigits
import Switchboard.Record
import Switchboard.Record.Document
import Switchboard.Roster
import Switchboard.Status
import Switchboard.Store
import Switchboard.Table
import Switchboard.Tally
import Switchboard.Text
import Switchboard.Toml.Document
import Switchboard.Toml.Scalar
import Switchboard.Toml.Text
import Switchboard.Toml.Tree
import Switchboard.Toml.Value
import Switchboard.Unicode.Composed
import Switchboard.Unicode.Direction
import Switchboard.Unicode.Joining
import Switchboard.Unicode.Mark
import Switchboard.Unicode.Table
