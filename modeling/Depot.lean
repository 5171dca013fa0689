import Depot.Main
import Depot.Network.Script
import Depot.Service
import Depot.Proofs.HostSafety
import Depot.Proofs.LocalFiles
import Depot.Proofs.FirstCopy
import Depot.Proofs.NewestBuild
import Depot.Proofs.MergeAlgebra
import Depot.Proofs.PathRoundTrip
import Depot.Proofs.Verdicts
import Depot.Proofs.VerdictCache
import Depot.Proofs.MetadataCache
import Depot.Proofs.MergedForm
import Depot.Proofs.Repetition
import Depot.Proofs.AcceptingOnly
import Depot.Proofs.Passwords
import Depot.Proofs.ServiceAnswers
import Depot.Proofs.CandidateList
import Depot.Proofs.ValidCopy
import Depot.Proofs.RequestTarget
import Depot.Proofs.WrittenMetadata
import Depot.Proofs.DocumentOrder
import Depot.Proofs.Negotiation
import Depot.Proofs.AnnouncedHashes
import Depot.Proofs.BlockedHosts
import Depot.Proofs.RefusedHosts
import Depot.Proofs.CanonicalForm
import Depot.Proofs.VersionSpelling
import Depot.Proofs.References
import Depot.Proofs.DirectoryIndex
