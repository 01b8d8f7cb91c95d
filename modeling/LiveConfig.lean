import LiveConfig.TextMap
import LiveConfig.Text.Blank
import LiveConfig.Text.Cut
import LiveConfig.Number.Shortest
import LiveConfig.Net.Address
import LiveConfig.Net.Punycode
import LiveConfig.Text.Case
import LiveConfig.Text.Quoted
import LiveConfig.Net.Url
import LiveConfig.Time.Duration
import LiveConfig.Document.Json
import LiveConfig.Document.Toml
import LiveConfig.Document.PropertyText
import LiveConfig.Log
import LiveConfig.Error
import LiveConfig.Locator
import LiveConfig.Environment
import LiveConfig.Snapshot
import LiveConfig.Expansion
import LiveConfig.Conversion.Basic
import LiveConfig.Loader.Standard
import LiveConfig.Loading
import LiveConfig.Declaration.Document
import LiveConfig.Resolution
import LiveConfig.Listener.Transaction
import LiveConfig.View
import LiveConfig.Config
import LiveConfig.Stock.Plugins
import LiveConfig.Stock.Loaders
import LiveConfig.Stock.Listeners
import LiveConfig.Session.Run
import LiveConfig.Proofs.TextMap.Lookup
import LiveConfig.Proofs.Loading.Policy
import LiveConfig.Proofs.Expansion.Layers
import LiveConfig.Proofs.Pipeline.Precedence
import LiveConfig.Proofs.Expansion.Recursion
import LiveConfig.Proofs.Expansion.Keeping
import LiveConfig.Proofs.Change.Difference
import LiveConfig.Proofs.Listener.Calls
import LiveConfig.Proofs.Reload.Conclusion
import LiveConfig.Proofs.Reload.Gate
import LiveConfig.Proofs.Reload.Attempt
import LiveConfig.Proofs.Reload.Publication
import LiveConfig.Proofs.Reload.Run
import LiveConfig.Proofs.Reload.Ticking
import LiveConfig.Proofs.Reload.Asking
import LiveConfig.Proofs.Reload.Progress
import LiveConfig.Proofs.Reload.Atomicity
import LiveConfig.Proofs.Reload.Beginning
import LiveConfig.Proofs.Reload.Coalescing
import LiveConfig.Proofs.Listener.Hearing
import LiveConfig.Proofs.Reload.Replay
import LiveConfig.Proofs.Reload.Freshness
import LiveConfig.Proofs.Document.Continuation
import LiveConfig.Proofs.Document.PropertyRoundTrip
import LiveConfig.Proofs.Document.Escapes
import LiveConfig.Proofs.Document.Composition
import LiveConfig.Proofs.Text.Cutting
import LiveConfig.Proofs.Text.Letters
import LiveConfig.Proofs.Document.Leaves
import LiveConfig.Proofs.Expansion.Work
import LiveConfig.Proofs.Loading.Agreement
import LiveConfig.Proofs.Expansion.Purity
import LiveConfig.Proofs.Listener.Verdicts
import LiveConfig.Proofs.Loading.Steady
import LiveConfig.Proofs.Pipeline.Repetition
import LiveConfig.Proofs.Reload.Idempotence
import LiveConfig.Proofs.Reload.Imports
import LiveConfig.Proofs.Reload.Cancellation
import LiveConfig.Proofs.Loader.Secrecy
import LiveConfig.Proofs.Conversion.Declared
import LiveConfig.Proofs.Number.Numeral
import LiveConfig.Proofs.Conversion.DocumentLists
import LiveConfig.Proofs.Pipeline.FallbackKeys
import LiveConfig.Proofs.Expansion.Truncation
import LiveConfig.Proofs.Expansion.Watching
import LiveConfig.Proofs.Expansion.Limit
import LiveConfig.Proofs.Expansion.FreeRun
import LiveConfig.Proofs.Expansion.Neighbours
import LiveConfig.Proofs.Text.Percent
import LiveConfig.Proofs.Net.LocalPath
import LiveConfig.Proofs.Locator.RoundTrip
import LiveConfig.Proofs.Change.Exactness
import LiveConfig.Proofs.Placeholder.Occurrence
import LiveConfig.Proofs.Expansion.PlainText
import LiveConfig.Proofs.Expansion.Completeness
import LiveConfig.Proofs.Expansion.Dispatch
import LiveConfig.Proofs.Listener.Commuting
import LiveConfig.Proofs.Locator.Grammar
import LiveConfig.Proofs.Resolution.Completion
import LiveConfig.Proofs.Resolution.Respelling
import LiveConfig.Proofs.Resolution.Home
import LiveConfig.Proofs.Loader.Filtering
import LiveConfig.Proofs.Loader.Nesting
import LiveConfig.Proofs.Conversion.Exclusiveness
import LiveConfig.Proofs.Conversion.Collections
import LiveConfig.Proofs.Placeholder.Segmentation
import LiveConfig.Proofs.Declaration.Building
import LiveConfig.Proofs.Declaration.Interval
import LiveConfig.Proofs.Reload.OnAccess
import LiveConfig.Proofs.Session.Moves
import LiveConfig.Proofs.Listener.History
