import StorageTopology.Diagnostics.Client
import StorageTopology.Directory
import StorageTopology.Disk.Fill
import StorageTopology.Engine.Scripted
import StorageTopology.Lvm.Json
import StorageTopology.Main
import StorageTopology.Native.Host
import StorageTopology.Settings.Json
import StorageTopology.Proofs.Traversal
import StorageTopology.Proofs.Text.Utf8
import StorageTopology.Proofs.Text.Blank
import StorageTopology.Proofs.Decimal.Numeral
import StorageTopology.Proofs.DevicePath.Ordinal
import StorageTopology.Proofs.Disk.Settled
import StorageTopology.Proofs.Disk.Regions
import StorageTopology.Proofs.Disk.Gaps
import StorageTopology.Proofs.Disk.Faults
import StorageTopology.Proofs.Discovery.Sources
import StorageTopology.Proofs.Settings.Accepted
import StorageTopology.Proofs.CommandLine.Invocation
import StorageTopology.Proofs.CommandLine.Calls
import StorageTopology.Proofs.Json.Text
import StorageTopology.Proofs.Json.Number
import StorageTopology.Proofs.Json.Tokens
import StorageTopology.Proofs.Json.Scan
import StorageTopology.Proofs.Json.Record
import StorageTopology.Proofs.Json.RoundTrip
import StorageTopology.Proofs.Diagnostics.Ledger
import StorageTopology.Proofs.Engine.Reporting
import StorageTopology.Proofs.Lvm.Words
import StorageTopology.Proofs.Lvm.CommandLine
import StorageTopology.Proofs.Lvm.Codes
import StorageTopology.Proofs.Lvm.Rows
import StorageTopology.Proofs.Session.Activity
import StorageTopology.Proofs.Session.Perform
import StorageTopology.Proofs.Session.Refusal
import StorageTopology.Proofs.Session.History
import StorageTopology.Proofs.Session.Report
import StorageTopology.Proofs.Session.RoundTrip
import StorageTopology.Proofs.Session.Leftovers
import StorageTopology.Proofs.Session.Script
import StorageTopology.Proofs.Session.Simulation
import StorageTopology.Proofs.Native.Steps
import StorageTopology.Proofs.Native.Effects
import StorageTopology.Proofs.Native.Slot
import StorageTopology.Proofs.Native.Account
import StorageTopology.Proofs.Native.Sessions
import StorageTopology.Proofs.Native.Isolation
import StorageTopology.Proofs.Native.Trace
import StorageTopology.Proofs.Native.Contexts
import StorageTopology.Proofs.Native.LifeCycle
import StorageTopology.Proofs.Native.Outside
import StorageTopology.Proofs.Native.Refinement
import StorageTopology.Proofs.Discovery.Listing
import StorageTopology.Proofs.Discovery.KernelNames
import StorageTopology.Proofs.Discovery.Layouts
import StorageTopology.Proofs.Discovery.Children
import StorageTopology.Proofs.Disk.Filling
import StorageTopology.Proofs.Lvm.Members
import StorageTopology.Proofs.Lvm.Lines
import StorageTopology.Proofs.Session.Rename
import StorageTopology.Proofs.Native.Arguments
import StorageTopology.Proofs.Lvm.Decoding
import StorageTopology.Proofs.Lvm.Numbers
import StorageTopology.Proofs.Lvm.VolumeCodes
import StorageTopology.Proofs.DevicePath.Collisions
import StorageTopology.Proofs.Disk.Order
import StorageTopology.Proofs.CommandLine.Output
import StorageTopology.Proofs.Disk.DisplayNames
