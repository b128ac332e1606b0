import InstanceHost.Binary64.Basic
import InstanceHost.Binary64.Decimal
import InstanceHost.Binary64.Shortest
import InstanceHost.Call.Basic
import InstanceHost.Call.Failure
import InstanceHost.Call.Schedule
import InstanceHost.Call.Service
import InstanceHost.Call.SharedLoader
import InstanceHost.CommandLine.Arguments
import InstanceHost.CommandLine.Program
import InstanceHost.Config.Basic
import InstanceHost.Config.Options
import InstanceHost.Config.Refusal
import InstanceHost.Event
import InstanceHost.Extension.Basic
import InstanceHost.Extension.Name
import InstanceHost.Extension.Registry
import InstanceHost.FileSystem.Basic
import InstanceHost.FileSystem.Failure
import InstanceHost.FileSystem.Join
import InstanceHost.FileSystem.Opened
import InstanceHost.Instance.Basic
import InstanceHost.Instance.Identifier
import InstanceHost.Instance.Items
import InstanceHost.Instance.Session
import InstanceHost.Json.Basic
import InstanceHost.Json.Failure
import InstanceHost.Json.Overlay
import InstanceHost.Json.Path
import InstanceHost.Json.Reader
import InstanceHost.Json.Writer
import InstanceHost.Keyed
import InstanceHost.Log.Basic
import InstanceHost.Log.Journal
import InstanceHost.Log.Schedule
import InstanceHost.Log.Settings
import InstanceHost.Main
import InstanceHost.Module.Basic
import InstanceHost.Module.Load
import InstanceHost.Proofs.Call.Account
import InstanceHost.Proofs.Call.Configuration
import InstanceHost.Proofs.Call.FirstFailure
import InstanceHost.Proofs.Call.Forecast
import InstanceHost.Proofs.Call.History
import InstanceHost.Proofs.Call.Independence
import InstanceHost.Proofs.Call.Ledger
import InstanceHost.Proofs.Call.Life
import InstanceHost.Proofs.Call.ModuleFile
import InstanceHost.Proofs.Call.Orderly
import InstanceHost.Proofs.Call.Publication
import InstanceHost.Proofs.Call.Run
import InstanceHost.Proofs.Call.Scene
import InstanceHost.Proofs.Call.Sequence
import InstanceHost.Proofs.Call.SharedLoader
import InstanceHost.Proofs.Call.Soundness
import InstanceHost.Proofs.Call.Standing
import InstanceHost.Proofs.Call.Stride
import InstanceHost.Proofs.Call.Tidings
import InstanceHost.Proofs.Call.Tidy
import InstanceHost.Proofs.Call.Trace
import InstanceHost.Proofs.Call.Update
import InstanceHost.Proofs.CommandLine.Agreement
import InstanceHost.Proofs.Config.Canonical
import InstanceHost.Proofs.Config.Grammar
import InstanceHost.Proofs.Config.Location
import InstanceHost.Proofs.Config.Options
import InstanceHost.Proofs.Config.ReadBack
import InstanceHost.Proofs.Extension.NameLanguage
import InstanceHost.Proofs.Extension.Registry
import InstanceHost.Proofs.Extension.Tenure
import InstanceHost.Proofs.FileSystem.Creation
import InstanceHost.Proofs.FileSystem.Respelling
import InstanceHost.Proofs.Instance.Balance
import InstanceHost.Proofs.Instance.Continuity
import InstanceHost.Proofs.Instance.Keys
import InstanceHost.Proofs.Instance.ReadAfterWrite
import InstanceHost.Proofs.Instance.Turn
import InstanceHost.Proofs.Instance.Writes
import InstanceHost.Proofs.Json.Heredity
import InstanceHost.Proofs.Json.Locality
import InstanceHost.Proofs.Json.Order
import InstanceHost.Proofs.Json.Overlay
import InstanceHost.Proofs.Json.RoundTrip
import InstanceHost.Proofs.Json.Scalar
import InstanceHost.Proofs.Json.ScalarLocality
import InstanceHost.Proofs.Log.Once
import InstanceHost.Proofs.Matched
import InstanceHost.Proofs.Module.Reading
import InstanceHost.Proofs.Text.Padding
import InstanceHost.Proofs.Toml.Order
import InstanceHost.Text.Blank
import InstanceHost.Text.Lines
import InstanceHost.Text.Pieces
import InstanceHost.Toml.DateTime
import InstanceHost.Toml.Reader
import InstanceHost.Toml.Scalar
import InstanceHost.Toml.Table
import InstanceHost.Toml.Text
import InstanceHost.Proofs.Call.Tidings
import InstanceHost.Proofs.Call.Trace
import InstanceHost.Proofs.CommandLine.OneByOne
import InstanceHost.Proofs.Extension.Naming
import InstanceHost.Proofs.Log.Panics
