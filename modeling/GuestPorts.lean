import GuestPorts.BridgeFilter
import GuestPorts.Main
import GuestPorts.Perimeter.File
import GuestPorts.Settings.Yaml
import GuestPorts.Proofs.Batch.Work
import GuestPorts.Proofs.Batch.Tasks
import GuestPorts.Proofs.Batch.Orderly
import GuestPorts.Proofs.Batch.Convergence
import GuestPorts.Proofs.Batch.Linked
import GuestPorts.Proofs.Hook.Handling
import GuestPorts.Proofs.Hook.Reconnect
import GuestPorts.Proofs.Hook.Independence
import GuestPorts.Proofs.Registry.Aliases
import GuestPorts.Proofs.Perimeter.Reload
import GuestPorts.Proofs.Filter.Part
import GuestPorts.Proofs.Batch.Interleaving
import GuestPorts.Proofs.Json.Scalars
import GuestPorts.Proofs.Text.Blank
import GuestPorts.Proofs.Json.Spacing
import GuestPorts.Proofs.Json.Documents
import GuestPorts.Proofs.Time.ReadBack
import GuestPorts.Proofs.Registry.Decode
import GuestPorts.Proofs.Registry.Members
import GuestPorts.Proofs.Registry.Spellings
import GuestPorts.Proofs.Registry.Document
import GuestPorts.Proofs.Registry.RoundTrip
import GuestPorts.Proofs.Registry.Access
import GuestPorts.Proofs.Text.Utf8
import GuestPorts.Proofs.Disk.Files
import GuestPorts.Proofs.Registry.Refinement
import GuestPorts.Proofs.Filter.Packet
import GuestPorts.Proofs.Batch.Meaning
import GuestPorts.Proofs.Perimeter.Reach
import GuestPorts.Proofs.Perimeter.Block
import GuestPorts.Proofs.Perimeter.Listing
import GuestPorts.Proofs.Disk.Paths
import GuestPorts.Proofs.Disk.Directories
import GuestPorts.Proofs.Registry.Legacy
import GuestPorts.Proofs.Registry.Failure
import GuestPorts.Proofs.Perimeter.Toggle
import GuestPorts.Proofs.Perimeter.Insertion
import GuestPorts.Proofs.Perimeter.Exposure
import GuestPorts.Proofs.Perimeter.Frame
import GuestPorts.Proofs.Batch.Fate
import GuestPorts.Proofs.Batch.Policy
import GuestPorts.Proofs.Batch.Passage
import GuestPorts.Proofs.Batch.Calls
import GuestPorts.Proofs.Hook.Records
import GuestPorts.Proofs.Hook.Preview
import GuestPorts.Proofs.Perimeter.Guests
import GuestPorts.Proofs.Perimeter.Markers
import GuestPorts.Proofs.Batch.Words
import GuestPorts.Proofs.Hook.Reading
import GuestPorts.Proofs.Disk.Contents
import GuestPorts.Proofs.Hook.Log
import GuestPorts.Proofs.Batch.Accounting
import GuestPorts.Proofs.Batch.Blocks
import GuestPorts.Proofs.Batch.Layout
import GuestPorts.Proofs.Yaml.Gap
import GuestPorts.Proofs.Yaml.Quoted
import GuestPorts.Proofs.Yaml.Plain
import GuestPorts.Proofs.Yaml.Literal
import GuestPorts.Proofs.Yaml.Style
import GuestPorts.Proofs.Yaml.Characters
import GuestPorts.Proofs.Yaml.Scan
import GuestPorts.Proofs.Yaml.Value
import GuestPorts.Proofs.Yaml.Line
import GuestPorts.Proofs.Yaml.Tree
import GuestPorts.Proofs.Settings.Fields
import GuestPorts.Proofs.Settings.RoundTrip
import GuestPorts.Proofs.Chain.Usable
import GuestPorts.Proofs.Chain.Length
import GuestPorts.Proofs.Registry.Replacement
import GuestPorts.Proofs.Chain.Coincidence
import GuestPorts.Proofs.Registry.Merging
import GuestPorts.Proofs.Batch.Teardown
import GuestPorts.Proofs.Registry.Lookup
import GuestPorts.Proofs.Perimeter.Idempotence
import GuestPorts.Proofs.Perimeter.Withdrawal
import GuestPorts.Proofs.Perimeter.Requests
import GuestPorts.Proofs.Perimeter.Pairing
import GuestPorts.Proofs.Perimeter.Mention
import GuestPorts.Proofs.Perimeter.Table
import GuestPorts.Proofs.Batch.Hairpin
import GuestPorts.Proofs.Port.Grammar
