import ClusterTopology.CommandLine.Directory
import ClusterTopology.Main
import ClusterTopology.Proofs.Allocation.Calls
import ClusterTopology.Proofs.Allocation.Independence
import ClusterTopology.Proofs.Allocation.Naming
import ClusterTopology.Proofs.CommandLine.ExitCode
import ClusterTopology.Proofs.CommandLine.Precedence
import ClusterTopology.Proofs.Expansion.Count
import ClusterTopology.Proofs.Expansion.Exhaustion
import ClusterTopology.Proofs.Expansion.Fault
import ClusterTopology.Proofs.Expansion.Forest
import ClusterTopology.Proofs.Expansion.Lookup
import ClusterTopology.Proofs.Expansion.Order
import ClusterTopology.Proofs.Expansion.Reach
import ClusterTopology.Proofs.Expansion.Session
import ClusterTopology.Proofs.Expansion.Shape
import ClusterTopology.Proofs.Expansion.Sharing
import ClusterTopology.Proofs.Expansion.Skipping
import ClusterTopology.Proofs.Settings.Application
import ClusterTopology.Proofs.Summary.Agreement
import ClusterTopology.Proofs.Template.Calls
import ClusterTopology.Proofs.Template.Verdict
import ClusterTopology.Proofs.TemplateFile.Account
import ClusterTopology.Proofs.TemplateFile.Reading
import ClusterTopology.Proofs.TopologyFile.Decoding
