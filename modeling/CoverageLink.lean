import CoverageLink.Agent
import CoverageLink.Archive.Checksum
import CoverageLink.Archive.Description
import CoverageLink.Archive.Directory
import CoverageLink.Archive.Ending
import CoverageLink.Archive.Inflate
import CoverageLink.Archive.Layout
import CoverageLink.Archive.Member
import CoverageLink.Artifact.Filter
import CoverageLink.Artifact.Id
import CoverageLink.Artifact.Sync
import CoverageLink.Bytes
import CoverageLink.Collector.Address
import CoverageLink.Collector.CommandLine
import CoverageLink.Collector.ExecutionFile
import CoverageLink.Collector.Host
import CoverageLink.Collector.Naming
import CoverageLink.Collector.Server
import CoverageLink.Collector.Session
import CoverageLink.Collector.Store
import CoverageLink.Failure
import CoverageLink.Files.Folder
import CoverageLink.Files.Host
import CoverageLink.Files.Listing
import CoverageLink.Files.Lookup
import CoverageLink.Files.Path
import CoverageLink.Files.Scratch
import CoverageLink.Files.Stream
import CoverageLink.Files.Volume
import CoverageLink.Interval
import CoverageLink.KnownIds
import CoverageLink.Link.Backoff
import CoverageLink.Link.Commands
import CoverageLink.Link.Connection
import CoverageLink.Link.Heartbeat
import CoverageLink.Link.Network
import CoverageLink.Link.Reconnect
import CoverageLink.Link.RecordWriter
import CoverageLink.Link.Signal
import CoverageLink.Log
import CoverageLink.Log.File
import CoverageLink.Log.Logger
import CoverageLink.Log.Settings
import CoverageLink.Main
import CoverageLink.Probes
import CoverageLink.ProjectInfo
import CoverageLink.Proofs.Archive.Single
import CoverageLink.Proofs.Artifact.Candidates
import CoverageLink.Proofs.Artifact.Identifier
import CoverageLink.Proofs.Artifact.Nesting
import CoverageLink.Proofs.Artifact.Order
import CoverageLink.Proofs.Artifact.Refusal
import CoverageLink.Proofs.Artifact.SharedIdentifier
import CoverageLink.Proofs.Artifact.Sync
import CoverageLink.Proofs.Collector.Account
import CoverageLink.Proofs.Collector.Appended
import CoverageLink.Proofs.Collector.Confinement
import CoverageLink.Proofs.Collector.Contents
import CoverageLink.Proofs.Collector.Convergence
import CoverageLink.Proofs.Collector.Coverage
import CoverageLink.Proofs.Collector.ExecutionFile
import CoverageLink.Proofs.Collector.Kept
import CoverageLink.Proofs.Collector.Known
import CoverageLink.Proofs.Collector.Law
import CoverageLink.Proofs.Collector.Naming
import CoverageLink.Proofs.Collector.Refused
import CoverageLink.Proofs.Collector.Session
import CoverageLink.Proofs.Collector.Store
import CoverageLink.Proofs.Collector.Stored
import CoverageLink.Proofs.Collector.Unhindered
import CoverageLink.Proofs.Files.Change
import CoverageLink.Proofs.Files.Descent
import CoverageLink.Proofs.Files.Host
import CoverageLink.Proofs.Files.Listing
import CoverageLink.Proofs.Files.Lookup
import CoverageLink.Proofs.Files.Making
import CoverageLink.Proofs.Files.Moving
import CoverageLink.Proofs.Files.Scratch
import CoverageLink.Proofs.HandOver
import CoverageLink.Proofs.Interval
import CoverageLink.Proofs.KnownIds
import CoverageLink.Proofs.Link.Backoff
import CoverageLink.Proofs.Link.Commands
import CoverageLink.Proofs.Link.Connection
import CoverageLink.Proofs.Link.Dumps
import CoverageLink.Proofs.Link.Heartbeat
import CoverageLink.Proofs.Link.LifeCycle
import CoverageLink.Proofs.Link.Pull
import CoverageLink.Proofs.Link.Reconnect
import CoverageLink.Proofs.Link.RecordWriter
import CoverageLink.Proofs.Link.Requests
import CoverageLink.Proofs.Log.Rotation
import CoverageLink.Proofs.Octet
import CoverageLink.Proofs.Probes.Delivery
import CoverageLink.Proofs.Probes.History
import CoverageLink.Proofs.Record.Bodies
import CoverageLink.Proofs.Record.Calls
import CoverageLink.Proofs.Record.DeclaredLength
import CoverageLink.Proofs.Record.Header
import CoverageLink.Proofs.Record.Limits
import CoverageLink.Proofs.Record.ReadAll
import CoverageLink.Proofs.Record.Rewrite
import CoverageLink.Proofs.Record.RoundTrip
import CoverageLink.Proofs.Record.Truncation
import CoverageLink.Proofs.Settings
import CoverageLink.Proofs.Text.Line
import CoverageLink.Proofs.Text.Utf8
import CoverageLink.Proofs.Wire.BitLayout
import CoverageLink.Proofs.Wire.Fields
import CoverageLink.Proofs.Wire.Groups
import CoverageLink.Proofs.Wire.PackedBits
import CoverageLink.Proofs.Wire.Sink
import CoverageLink.Proofs.Wire.Spelling
import CoverageLink.Proofs.Wire.Supply
import CoverageLink.Proofs.Wire.VarInt
import CoverageLink.Record
import CoverageLink.Record.Decode
import CoverageLink.Record.Encode
import CoverageLink.Record.Stream
import CoverageLink.Settings
import CoverageLink.Text.Alphanumeric
import CoverageLink.Text.Blank
import CoverageLink.Text.CharClass
import CoverageLink.Text.Codepage
import CoverageLink.Text.Numeral
import CoverageLink.Text.Pieces
import CoverageLink.Text.Printable
import CoverageLink.Text.Quoted
import CoverageLink.Text.Utf8
import CoverageLink.Timestamp
import CoverageLink.Wildcard
import CoverageLink.Wire.Field
import CoverageLink.Wire.PackedBits
import CoverageLink.Wire.Sink
import CoverageLink.Wire.Source
import CoverageLink.Wire.VarInt
