import RackTelemetry.Alarm.Basic
import RackTelemetry.Alarm.Catalogue
import RackTelemetry.Alarm.Draft
import RackTelemetry.Alarm.Pass
import RackTelemetry.Alarm.Rule
import RackTelemetry.Capture
import RackTelemetry.CommandLine
import RackTelemetry.Document.Leaf
import RackTelemetry.Document.Scalar
import RackTelemetry.Engine
import RackTelemetry.Error
import RackTelemetry.Files
import RackTelemetry.Inventory.Device
import RackTelemetry.Inventory.Outlet
import RackTelemetry.Inventory.Sensor
import RackTelemetry.Journal
import RackTelemetry.Journal.Console
import RackTelemetry.Journal.Directive
import RackTelemetry.Journal.Setup
import RackTelemetry.Json.Basic
import RackTelemetry.Json.Printer
import RackTelemetry.Json.Reader
import RackTelemetry.Main
import RackTelemetry.Naming.KeySpace
import RackTelemetry.Naming.Template
import RackTelemetry.Number.Fixed
import RackTelemetry.Number.Integer
import RackTelemetry.Number.Real
import RackTelemetry.Number.Rounding
import RackTelemetry.Number.Shortest
import RackTelemetry.Pattern.Basic
import RackTelemetry.Pattern.Reader
import RackTelemetry.Proofs.Alarm.Account
import RackTelemetry.Proofs.Alarm.Channels
import RackTelemetry.Proofs.Alarm.Effects
import RackTelemetry.Proofs.Alarm.Objects
import RackTelemetry.Proofs.Alarm.Status
import RackTelemetry.Proofs.Alarm.Tracking
import RackTelemetry.Proofs.Engine.Channels
import RackTelemetry.Proofs.Engine.DeviceList
import RackTelemetry.Proofs.Engine.Mirror
import RackTelemetry.Proofs.Engine.Run
import RackTelemetry.Proofs.Inventory.Order
import RackTelemetry.Proofs.Inventory.Slots
import RackTelemetry.Proofs.Inventory.Outlets
import RackTelemetry.Proofs.Naming.Step
import RackTelemetry.Proofs.Number.Reading
import RackTelemetry.Proofs.Pattern.Fits
import RackTelemetry.Proofs.Pattern.Shape
import RackTelemetry.Proofs.Site.Announcement
import RackTelemetry.Proofs.Site.Change
import RackTelemetry.Proofs.Site.DeviceList
import RackTelemetry.Proofs.Site.Mirror
import RackTelemetry.Proofs.Site.Relocation
import RackTelemetry.Proofs.Site.Truncation
import RackTelemetry.Proofs.Site.Upkeep
import RackTelemetry.Proofs.Store.Batch
import RackTelemetry.Proofs.Topic.Card
import RackTelemetry.Proofs.Topic.Members
import RackTelemetry.Report
import RackTelemetry.Service
import RackTelemetry.Settings.Basic
import RackTelemetry.Settings.Environment
import RackTelemetry.Settings.Load
import RackTelemetry.Settings.Variable
import RackTelemetry.Site.Basic
import RackTelemetry.Site.Devices
import RackTelemetry.Site.Handling
import RackTelemetry.Site.Value
import RackTelemetry.Store
import RackTelemetry.Store.Printer
import RackTelemetry.Text.Alphanumeric
import RackTelemetry.Text.Blank
import RackTelemetry.Text.Printable
import RackTelemetry.Text.Quoted
import RackTelemetry.Topic.Catalogue
import RackTelemetry.Topic.Filter
import RackTelemetry.Topic.Rule
import RackTelemetry.Yaml.Block
import RackTelemetry.Yaml.Cursor
import RackTelemetry.Yaml.Node
import RackTelemetry.Yaml.Plain
import RackTelemetry.Yaml.Quoted
import RackTelemetry.Yaml.Scalar
import RackTelemetry.Yaml.Tag
import RackTelemetry.Yaml.Token
import RackTelemetry.Yaml.Value
import RackTelemetry.Proofs.Alarm.Conservation
import RackTelemetry.Proofs.Alarm.Replay
import RackTelemetry.Proofs.Pattern.Beginning
import RackTelemetry.Proofs.Engine.AlarmList
import RackTelemetry.Proofs.Topic.DevicePath
import RackTelemetry.Proofs.Site.Isolation
import RackTelemetry.Proofs.Engine.Isolation
import RackTelemetry.Proofs.Site.Concealment
import RackTelemetry.Proofs.Engine.Concealment
import RackTelemetry.Proofs.Site.Observation
import RackTelemetry.Proofs.Engine.Leaves
import RackTelemetry.Proofs.Inventory.Refusal
import RackTelemetry.Proofs.Topic.Contract
import RackTelemetry.Proofs.Site.Refusal
import RackTelemetry.Proofs.Inventory.Limits
import RackTelemetry.Proofs.Site.Limits
import RackTelemetry.Proofs.Engine.Limits
import RackTelemetry.Proofs.Naming.Collision
import RackTelemetry.Proofs.Site.Tidiness
import RackTelemetry.Proofs.Engine.Tidiness
import RackTelemetry.Proofs.Alarm.Appearance
import RackTelemetry.Proofs.Site.Agreement
import RackTelemetry.Proofs.Site.Seeding
import RackTelemetry.Proofs.Engine.EarlyAlarms
import RackTelemetry.Proofs.Inventory.Placement
import RackTelemetry.Proofs.Site.Placement
import RackTelemetry.Proofs.Engine.Announcement
import RackTelemetry.Proofs.Engine.Capture
import RackTelemetry.Proofs.Topic.SensorList
import RackTelemetry.Proofs.Site.SensorList
import RackTelemetry.Proofs.Engine.SensorList
import RackTelemetry.Proofs.Pattern.Steps
import RackTelemetry.Proofs.Topic.Lookup
import RackTelemetry.Proofs.Json.Printed
import RackTelemetry.Proofs.Json.Quoted
import RackTelemetry.Proofs.Engine.Delivery
import RackTelemetry.Proofs.Alarm.Attempts
import RackTelemetry.Proofs.Alarm.Commitment
import RackTelemetry.Proofs.Alarm.Contract
import RackTelemetry.Proofs.Alarm.Accuracy
import RackTelemetry.Proofs.Inventory.Move
import RackTelemetry.Proofs.Alarm.Arrival
import RackTelemetry.Proofs.Document.Address
import RackTelemetry.Proofs.Engine.Walk
import RackTelemetry.Proofs.Topic.OutletList
import RackTelemetry.Proofs.Site.OutletList
import RackTelemetry.Proofs.Engine.OutletList
import RackTelemetry.Proofs.Inventory.Operation
import RackTelemetry.Proofs.Inventory.Keying
import RackTelemetry.Proofs.Site.Tail
import RackTelemetry.Proofs.Site.Renumbering
import RackTelemetry.Proofs.Naming.ObjectKeys
import RackTelemetry.Proofs.Store.History
import RackTelemetry.Proofs.Site.ObjectNames
