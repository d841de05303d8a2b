import FileGateway.ConfigurationFile
import FileGateway.Gateway.Files
import FileGateway.Gateway.Info
import FileGateway.Storage.Whole
import FileGateway.Proofs.PathText
import FileGateway.Proofs.Tree
import FileGateway.Proofs.RootedTree
import FileGateway.Proofs.Cluster.Namespace
import FileGateway.Proofs.Cluster.Contents
import FileGateway.Proofs.Cluster.Operations
import FileGateway.Proofs.Cluster.Writers
import FileGateway.Proofs.Cluster.Change
import FileGateway.Proofs.Cluster.Exclusion
import FileGateway.Proofs.Cluster.Cuts
import FileGateway.Proofs.Cluster.Files
import FileGateway.Proofs.EntryCreation
import FileGateway.Proofs.BlockLayout
import FileGateway.Proofs.Storage.Sparing
import FileGateway.Proofs.ExactReads
import FileGateway.Proofs.BlockQueries
import FileGateway.Proofs.NamespaceShape
import FileGateway.Proofs.WriterExclusion
import FileGateway.Proofs.WriterIsolation
import FileGateway.Proofs.TreeCopy
import FileGateway.Proofs.RefusedRequests
import FileGateway.Proofs.OrphanedLeases
import FileGateway.Proofs.GenerationGuard
import FileGateway.Proofs.ReusedAddresses
import FileGateway.Proofs.LocalFrames
import FileGateway.Proofs.ForeignReferences
import FileGateway.Proofs.ReferenceAccounts
import FileGateway.Proofs.Disk.Changes
import FileGateway.Proofs.Disk.Local
import FileGateway.Proofs.Disk.Stream
import FileGateway.Proofs.Storage.Channels
import FileGateway.Proofs.Storage.Growth
import FileGateway.Proofs.FileHandles
import FileGateway.Proofs.Storage.Leaves
import FileGateway.Proofs.Storage.Operations
import FileGateway.Proofs.AdvisoryLocks
import FileGateway.Proofs.Cluster.Replicas
import FileGateway.Proofs.ReplicaPlacement
import FileGateway.Proofs.Disk.Missing
import FileGateway.Proofs.MissingPaths
import FileGateway.Proofs.Storage.Building
import FileGateway.Proofs.ConfinedCopies
import FileGateway.Proofs.SubtreeMoves
import FileGateway.Proofs.SubtreeRemoval
import FileGateway.Proofs.DirectoryListing
import FileGateway.Proofs.TruthfulSentinels
import FileGateway.Proofs.DefaultNames
import FileGateway.Proofs.PathResolution
import FileGateway.Proofs.BufferedReads
import FileGateway.Proofs.BufferedWrites
import FileGateway.Proofs.Promotion
import FileGateway.Proofs.Disk.Links
import FileGateway.Proofs.Disk.Ways
import FileGateway.Proofs.Disk.Linked
import FileGateway.Proofs.Storage.LinkedCopies
import FileGateway.Proofs.LinkedMoves
import FileGateway.Proofs.ListedLinks
import FileGateway.Proofs.LinkedRenames
import FileGateway.Proofs.ReferenceWords
import FileGateway.Proofs.HostMatrices
import FileGateway.Proofs.Cluster.Words
import FileGateway.Proofs.WordArithmetic
