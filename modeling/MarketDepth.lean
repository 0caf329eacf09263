import MarketDepth.Binary64.Basic
import MarketDepth.Binary64.Shortest
import MarketDepth.Book.Apply
import MarketDepth.Book.Basic
import MarketDepth.Book.Figures
import MarketDepth.Book.Restore
import MarketDepth.Book.View
import MarketDepth.BookError
import MarketDepth.Channel
import MarketDepth.Channel.Outcome
import MarketDepth.Channel.Stats
import MarketDepth.Checksum
import MarketDepth.Checksum.Crc32
import MarketDepth.Cli.Args
import MarketDepth.Cli.Report
import MarketDepth.Cli.Run
import MarketDepth.Decimal.Arithmetic
import MarketDepth.Decimal.Basic
import MarketDepth.Decimal.Division
import MarketDepth.Decimal.Reader
import MarketDepth.Decimal.Rounding
import MarketDepth.Decimal.Text
import MarketDepth.Feed.Line
import MarketDepth.Feed.Record
import MarketDepth.Feed.Replay
import MarketDepth.Http.Metrics
import MarketDepth.Http.Service
import MarketDepth.Http.Uri
import MarketDepth.Instrument
import MarketDepth.Json.Decode
import MarketDepth.Json.Encode
import MarketDepth.Json.Fault
import MarketDepth.Json.Numeral
import MarketDepth.Json.Reader
import MarketDepth.Json.Record
import MarketDepth.Json.Skip
import MarketDepth.Json.Value
import MarketDepth.Ladder
import MarketDepth.Level
import MarketDepth.Main
import MarketDepth.Market
import MarketDepth.Message
import MarketDepth.Pool
import MarketDepth.Power
import MarketDepth.ProgramError
import MarketDepth.Proofs.Book.Calls
import MarketDepth.Proofs.Book.Ids
import MarketDepth.Proofs.Book.Intake
import MarketDepth.Proofs.Book.Messages
import MarketDepth.Proofs.Book.Order
import MarketDepth.Proofs.Book.Takes
import MarketDepth.Proofs.Channel.Balance
import MarketDepth.Proofs.Channel.Effect
import MarketDepth.Proofs.Channel.Follow
import MarketDepth.Proofs.Channel.History
import MarketDepth.Proofs.Channel.Phase
import MarketDepth.Proofs.Channel.Race
import MarketDepth.Proofs.Channel.Refusal
import MarketDepth.Proofs.Channel.Run
import MarketDepth.Proofs.Ladder.Edits
import MarketDepth.Proofs.Ladder.Ids
import MarketDepth.Proofs.Ladder.Places
import MarketDepth.Proofs.Ladder.Sound
import MarketDepth.Proofs.Market.Isolation
import MarketDepth.Proofs.Market.Run
import MarketDepth.Proofs.Nodes
import MarketDepth.Proofs.Pool.Lent
import MarketDepth.Rounding
import MarketDepth.Settings
import MarketDepth.Side
import MarketDepth.Simulation
import MarketDepth.Text.Blank
import MarketDepth.Text.Case.Basic
import MarketDepth.Text.Case.Lower
import MarketDepth.Text.Case.Upper
import MarketDepth.Text.Digit
import MarketDepth.Text.Quoted
import MarketDepth.Text.Ranges
import MarketDepth.Text.Utf8
import MarketDepth.Word
import MarketDepth.Proofs.Market.Nodes
import MarketDepth.Proofs.Channel.Healing
import MarketDepth.Proofs.Decimal.Quotient
import MarketDepth.Proofs.Channel.Calls
import MarketDepth.Proofs.Http.Figures
import MarketDepth.Proofs.Book.Deletions
import MarketDepth.Proofs.Feed.Deletion
import MarketDepth.Proofs.Channel.Lineage
import MarketDepth.Proofs.Feed.Lines
import MarketDepth.Proofs.Feed.Modes
import MarketDepth.Proofs.Channel.Counts
import MarketDepth.Proofs.Feed.Summary
import MarketDepth.Proofs.Json.Numbers
import MarketDepth.Proofs.Decimal.Written
import MarketDepth.Proofs.Json.Levels
import MarketDepth.Proofs.Feed.Export
import MarketDepth.Proofs.Book.Quotes
import MarketDepth.Proofs.Ladder.Moves
import MarketDepth.Proofs.Decimal.Faithful
import MarketDepth.Proofs.Simulation.Walk
import MarketDepth.Proofs.Simulation.Average
import MarketDepth.Proofs.Simulation.Impact
import MarketDepth.Proofs.Book.Figures
import MarketDepth.Proofs.Book.Loading
import MarketDepth.Proofs.Book.Stops
import MarketDepth.Proofs.Checksum
import MarketDepth.Proofs.Channel.Verification
import MarketDepth.Proofs.Pool.Stamps
import MarketDepth.Proofs.Market.Orders
import MarketDepth.Proofs.Book.Imbalance
import MarketDepth.Proofs.Spelling
import MarketDepth.Proofs.Market.Peak
