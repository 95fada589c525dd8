import BootSnapshot.FileSystem.Memory
import BootSnapshot.Main
import BootSnapshot.Proofs.Text.Decomposition
import BootSnapshot.Proofs.Text.Composition
import BootSnapshot.Proofs.Component.Path
import BootSnapshot.Proofs.Merge.Commit
import BootSnapshot.Proofs.Merge.InPlace
import BootSnapshot.Proofs.Merge.Kext
import BootSnapshot.Proofs.Merge.Wanted
import BootSnapshot.Proofs.Merge.Recognition
import BootSnapshot.Proofs.Merge.Reconcile
import BootSnapshot.Proofs.Merge.Additive
import BootSnapshot.Proofs.Merge.Log
import BootSnapshot.Proofs.Merge.Replay
import BootSnapshot.Proofs.Merge.Bundles
import BootSnapshot.Proofs.Merge.Sharing
import BootSnapshot.Proofs.Merge.Settled
import BootSnapshot.Proofs.Merge.Settling
import BootSnapshot.Proofs.Merge.Rebuild
import BootSnapshot.Proofs.Merge.Settings
import BootSnapshot.Proofs.Merge.Interference
import BootSnapshot.Proofs.Finding.Duplicate
import BootSnapshot.Proofs.Merge.Duplicate
import BootSnapshot.Proofs.Merge.Unrecognized
import BootSnapshot.Proofs.Merge.Sequence
import BootSnapshot.Proofs.Scan.Quiet
import BootSnapshot.Proofs.FileSystem.Flat
import BootSnapshot.Proofs.Command.Save
import BootSnapshot.Proofs.Command.Snapshot
import BootSnapshot.Proofs.Sorted
import BootSnapshot.Proofs.FileSystem.Order
import BootSnapshot.Proofs.Scan.Order
import BootSnapshot.Proofs.Scan.Report
import BootSnapshot.Proofs.Finding.Structure
import BootSnapshot.Proofs.Finding.Place
import BootSnapshot.Proofs.Finding.Report
import BootSnapshot.Proofs.Bytes.Base64
import BootSnapshot.Proofs.Bytes.Utf8
import BootSnapshot.Proofs.Decimal.Natural
import BootSnapshot.Proofs.Decimal.Nearest
import BootSnapshot.Proofs.Decimal.ReadBack
import BootSnapshot.Proofs.PropertyList.Codec
import BootSnapshot.Proofs.Finding.Dependency
import BootSnapshot.Proofs.FileSystem.DiskPath
import BootSnapshot.Proofs.FileSystem.Listing
import BootSnapshot.Proofs.Scan.Bundle
import BootSnapshot.Proofs.Scan.Stack
import BootSnapshot.Proofs.FileSystem.Traversal
import BootSnapshot.Proofs.FileSystem.Shown
import BootSnapshot.Proofs.Scan.Files
import BootSnapshot.Proofs.Scan.Account
import BootSnapshot.Proofs.Tree.WrittenPath
import BootSnapshot.Proofs.Component.CanonicalForm
import BootSnapshot.Proofs.Finding.Item
import BootSnapshot.Proofs.Finding.PathLength
import BootSnapshot.Proofs.Finding.Group
import BootSnapshot.Proofs.Finding.KextKey
import BootSnapshot.Proofs.Text.Offset
import BootSnapshot.Proofs.Decimal.Numeral
import BootSnapshot.Proofs.Tree.BracketLoop
import BootSnapshot.Proofs.Tree.PathGrammar
import BootSnapshot.Proofs.Tree.Step
import BootSnapshot.Proofs.Tree.Replace
import BootSnapshot.Proofs.Tree.Slot
import BootSnapshot.Proofs.Tree.Lookup
import BootSnapshot.Proofs.PropertyList.Conversion
import BootSnapshot.Proofs.Tree.Entries
import BootSnapshot.Proofs.Tree.History
import BootSnapshot.Proofs.Tree.Children
import BootSnapshot.Proofs.FileSystem.RelativePath
import BootSnapshot.Proofs.Merge.DefaultEntry
