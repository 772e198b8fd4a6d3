import CachePartition.Cluster.Client
import CachePartition.Controller.Run
import CachePartition.Daemon.Client
import CachePartition.Daemon.Http
import CachePartition.Main
import CachePartition.PodCpus.Listing
import CachePartition.Url.Form
import CachePartition.World.Scenario
import CachePartition.Proofs.Tables
import CachePartition.Proofs.Changes
import CachePartition.Proofs.Conduct
import CachePartition.Proofs.Uniqueness
import CachePartition.Proofs.Traces
import CachePartition.Proofs.Targets
import CachePartition.Proofs.Justification
import CachePartition.Proofs.Anonymity
import CachePartition.Proofs.Views
import CachePartition.Proofs.Isolation
import CachePartition.Proofs.Outcomes
import CachePartition.Proofs.Convergence
import CachePartition.Proofs.DerivedNames
import CachePartition.Proofs.CallKinds
import CachePartition.Proofs.Derivations
import CachePartition.Proofs.Visits
import CachePartition.Proofs.Evictions
import CachePartition.Proofs.Talks
import CachePartition.Proofs.Locality
import CachePartition.Proofs.Standstill
import CachePartition.Proofs.Repetition
import CachePartition.Proofs.StatusWrites
import CachePartition.Proofs.Treatments
import CachePartition.Proofs.Ownership
import CachePartition.Proofs.Removals
import CachePartition.Proofs.Records
import CachePartition.Proofs.Applications
import CachePartition.Proofs.Faultless
import CachePartition.Proofs.Placement
import CachePartition.Proofs.Tours
import CachePartition.Proofs.CacheTotals
import CachePartition.Proofs.Snapshots
import CachePartition.Proofs.Polls
import CachePartition.Proofs.Numerals
import CachePartition.Proofs.JsonTexts
import CachePartition.Proofs.Members
import CachePartition.Proofs.Resources
import CachePartition.Proofs.Payloads
import CachePartition.Proofs.RequestBodies
import CachePartition.Proofs.WireFields
import CachePartition.Proofs.PodForms
import CachePartition.Proofs.Refusals
import CachePartition.Proofs.AddressTexts
import CachePartition.Proofs.DaemonUrls
import CachePartition.Proofs.UrlPaths
import CachePartition.Proofs.EntryTargets
import CachePartition.Proofs.Surroundings
import CachePartition.Proofs.Replacement
import CachePartition.Proofs.Attempts
import CachePartition.Proofs.Obstacles
import CachePartition.Proofs.Prefixes
import CachePartition.Proofs.UnsignedNumerals
import CachePartition.Proofs.ByteOrder
import CachePartition.Proofs.Annotations
import CachePartition.Proofs.OwnAnnotations
import CachePartition.Proofs.PinnedCpus
import CachePartition.Proofs.DaemonReplies
import CachePartition.Proofs.Trimming
import CachePartition.Proofs.WayMasks
import CachePartition.Proofs.Quantities
import CachePartition.Proofs.CoreComplements
import CachePartition.Proofs.TlsSetUp
import CachePartition.Proofs.Origins
