import SynthBridge.Bridge.Basic
import SynthBridge.Bridge.Closing
import SynthBridge.Bridge.Opening
import SynthBridge.Bridge.Sequential
import SynthBridge.Bridge.Step
import SynthBridge.Bridge.Traffic
import SynthBridge.Command.Options
import SynthBridge.Command.Run
import SynthBridge.Config
import SynthBridge.Decimal.Fixed
import SynthBridge.Decimal.Shortest
import SynthBridge.Engine.Basic
import SynthBridge.Engine.Scripted
import SynthBridge.Engine.Settings
import SynthBridge.Failure
import SynthBridge.Flow.Bench
import SynthBridge.Flow.Contention
import SynthBridge.Flow.Line
import SynthBridge.Flow.Pipeline
import SynthBridge.Flow.Player
import SynthBridge.Flow.Queue
import SynthBridge.Flow.Renderer
import SynthBridge.Flow.Teardown
import SynthBridge.Flow.Throng
import SynthBridge.Json.Error
import SynthBridge.Json.Layout
import SynthBridge.Json.Message
import SynthBridge.Json.Number
import SynthBridge.Json.Record
import SynthBridge.Json.Skip
import SynthBridge.Json.Text
import SynthBridge.Log
import SynthBridge.Main
import SynthBridge.Output.Desk
import SynthBridge.Output.Stream
import SynthBridge.Rom.Builtin
import SynthBridge.Rom.Catalog
import SynthBridge.Rom.File
import SynthBridge.Rom.Listing
import SynthBridge.Rom.Model
import SynthBridge.Rom.Presence
import SynthBridge.Rom.Resolve
import SynthBridge.Rom.Search
import SynthBridge.Rom.Selector
import SynthBridge.Sound.Amplitude
import SynthBridge.Sound.Extended
import SynthBridge.Sound.Limiter
import SynthBridge.Storage.Tree
import SynthBridge.Text.Blank
import SynthBridge.Text.Quoted
import SynthBridge.Proofs.Flow.Queue
import SynthBridge.Proofs.Flow.Moves.Player
import SynthBridge.Proofs.Flow.Moves.Renderer
import SynthBridge.Proofs.Flow.Moves.Teardown
import SynthBridge.Proofs.Flow.Moves
import SynthBridge.Proofs.Flow.Crew
import SynthBridge.Proofs.Flow.Buffers
import SynthBridge.Proofs.Flow.Conservation
import SynthBridge.Proofs.Flow.Deliveries
import SynthBridge.Proofs.Flow.Order
import SynthBridge.Proofs.Flow.Waits
import SynthBridge.Proofs.Flow.Effort
import SynthBridge.Proofs.Flow.Progress
import SynthBridge.Proofs.Flow.Tally
import SynthBridge.Proofs.Bridge.Moves
import SynthBridge.Proofs.Bridge.Slots
import SynthBridge.Proofs.Bridge.Threads
import SynthBridge.Proofs.Bridge.Controller
import SynthBridge.Proofs.Bridge.Session
import SynthBridge.Proofs.Bridge.Winding
import SynthBridge.Proofs.Bridge.Shutdown
import SynthBridge.Proofs.Rom.Presence
import SynthBridge.Proofs.Rom.Loading
import SynthBridge.Proofs.Rom.Resolve
import SynthBridge.Proofs.Rom.Holdings
import SynthBridge.Proofs.Bridge.Fittings
import SynthBridge.Proofs.Bridge.Wholeness
import SynthBridge.Bridge.Sending
import SynthBridge.Proofs.Bridge.Engines
import SynthBridge.Proofs.Histories
import SynthBridge.Proofs.Bridge.Lives
import SynthBridge.Proofs.Bridge.Engagement
import SynthBridge.Proofs.Bridge.Asking
import SynthBridge.Proofs.Bridge.Lifetimes
import SynthBridge.Proofs.Bridge.Positions
import SynthBridge.Proofs.Bridge.Senders
import SynthBridge.Proofs.Bridge.Submissions
import SynthBridge.Proofs.Bridge.Volumes
import SynthBridge.Proofs.Bridge.Crossing
import SynthBridge.Proofs.Rom.Memory
import SynthBridge.Proofs.Bridge.Faithfulness
import SynthBridge.Proofs.Bridge.Independence
import SynthBridge.Proofs.Flow.Stranding
import SynthBridge.Proofs.Flow.Lead
import SynthBridge.Proofs.Flow.Pulling
import SynthBridge.Proofs.Flow.Throng
import SynthBridge.Proofs.Flow.Contention
import SynthBridge.Proofs.Rom.Survey
import SynthBridge.Proofs.Rom.Queries
import SynthBridge.Proofs.Rom.Sheet
import SynthBridge.Proofs.Rom.Choice
import SynthBridge.Proofs.Json.Grammar
import SynthBridge.Proofs.Json.Text
import SynthBridge.Proofs.Json.Record
import SynthBridge.Proofs.Storage.Tree
import SynthBridge.Proofs.Text.Blank
import SynthBridge.Proofs.Config
import SynthBridge.Proofs.Sound.Extended
import SynthBridge.Proofs.Sound.Attenuation
import SynthBridge.Proofs.Sound.Volume
import SynthBridge.Proofs.Bridge.Balance
import SynthBridge.Proofs.Sound.Release
import SynthBridge.Proofs.Sound.Uses
import SynthBridge.Proofs.Bridge.Limiting
import SynthBridge.Proofs.Output.Stream
import SynthBridge.Proofs.Output.Silence
import SynthBridge.Proofs.Rom.Matrix
import SynthBridge.Proofs.Rom.Columns
import SynthBridge.Proofs.Rom.Search
import SynthBridge.Proofs.Storage.Path
import SynthBridge.Proofs.Rom.Names
import SynthBridge.Proofs.Rom.Naming
import SynthBridge.Proofs.Command.Line
import SynthBridge.Proofs.Json.Skip
import SynthBridge.Proofs.Config.Parts
import SynthBridge.Proofs.Rom.Unset
import SynthBridge.Proofs.Flow.Stopping
