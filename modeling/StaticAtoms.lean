import StaticAtoms.Hash.Running
import StaticAtoms.Manifest.Load
import StaticAtoms.Command.Run
import StaticAtoms.Main
import StaticAtoms.Proofs.Table.Buckets
import StaticAtoms.Proofs.Table.Registration
import StaticAtoms.Proofs.Table.Roster
import StaticAtoms.Proofs.Manifest.Loading
import StaticAtoms.Proofs.Json.Reading
import StaticAtoms.Proofs.Text.Hex
import StaticAtoms.Proofs.Json.Scalars
import StaticAtoms.Proofs.Json.Structures
import StaticAtoms.Proofs.Command.Stores
import StaticAtoms.Proofs.Generated.RoundTrip
import StaticAtoms.Proofs.Files.Paths
import StaticAtoms.Proofs.Files.Walks
import StaticAtoms.Proofs.Cache.Entries
import StaticAtoms.Proofs.Command.Generating
import StaticAtoms.Proofs.Command.Options
import StaticAtoms.Proofs.Cache.Contents
import StaticAtoms.Proofs.Cache.Transparency
import StaticAtoms.Proofs.Bytes.LittleEndian
import StaticAtoms.Proofs.Generated.Fingerprints
import StaticAtoms.Proofs.Table.Refusals
import StaticAtoms.Proofs.Text.Lowercase
import StaticAtoms.Proofs.Text.Utf16
import StaticAtoms.Proofs.Generated.Listings
import StaticAtoms.Proofs.Json.Grammar
import StaticAtoms.Proofs.Json.Recognition
import StaticAtoms.Proofs.Json.Records
import StaticAtoms.Proofs.Manifest.Spellings
import StaticAtoms.Proofs.Files.Directories
import StaticAtoms.Proofs.Cache.Histories
import StaticAtoms.Proofs.Cache.Versions
import StaticAtoms.Proofs.Cache.Keys
import StaticAtoms.Proofs.Files.Growth
import StaticAtoms.Proofs.Cache.Storing
import StaticAtoms.Proofs.Command.Delivering
import StaticAtoms.Proofs.Command.Failures
import StaticAtoms.Proofs.Command.Recovery
import StaticAtoms.Proofs.Generated.Checking
import StaticAtoms.Proofs.Table.Occupancy
import StaticAtoms.Proofs.Manifest.Faults
import StaticAtoms.Proofs.Atom.Decoding
import StaticAtoms.Proofs.Atom.Facts
import StaticAtoms.Proofs.Hash.Feeding
import StaticAtoms.Proofs.Hash.Edits
import StaticAtoms.Proofs.Hash.Masked
import StaticAtoms.Proofs.Hash.Pieces
import StaticAtoms.Proofs.Command.Interleaving
import StaticAtoms.Proofs.Table.Profile
import StaticAtoms.Proofs.Table.Reuse
import StaticAtoms.Proofs.Json.Values
import StaticAtoms.Proofs.Json.Tokens
import StaticAtoms.Proofs.Json.Brackets
import StaticAtoms.Proofs.Json.Skipping
import StaticAtoms.Proofs.Json.Exactness
import StaticAtoms.Proofs.Json.Members
import StaticAtoms.Proofs.Json.Insertion
import StaticAtoms.Proofs.Generated.Compatibility
import StaticAtoms.Proofs.Atom.Facts
