import DexTrail.Main
import DexTrail.Manager.Rehearsal
import DexTrail.Proofs.Attribution.Containment
import DexTrail.Proofs.Attribution.Locality
import DexTrail.Proofs.Attribution.Ownership
import DexTrail.Proofs.Command.Reopening
import DexTrail.Proofs.Local.CommandLine
import DexTrail.Proofs.Local.Confinement
import DexTrail.Proofs.Manager.Acceptance
import DexTrail.Proofs.Manager.Durability
import DexTrail.Proofs.Manager.Exemption
import DexTrail.Proofs.Manager.LoadOrder
import DexTrail.Proofs.Manager.Maintenance
import DexTrail.Proofs.Manager.Mentions
import DexTrail.Proofs.Manager.OptimizationPass
import DexTrail.Proofs.Manager.Removal
import DexTrail.Proofs.Manager.RemovalCount
import DexTrail.Proofs.Manager.Requests
import DexTrail.Proofs.Manager.StorageAgreement
import DexTrail.Proofs.Settings.Precedence
import DexTrail.Proofs.Settings.Printing
import DexTrail.Proofs.Usage.Accounting
import DexTrail.Proofs.Usage.AtomicWrite
import DexTrail.Proofs.Usage.Independence
import DexTrail.Proofs.Usage.Pruning
import DexTrail.Proofs.Usage.SecondaryLoads
import DexTrail.Proofs.Usage.WellFormed
import DexTrail.Sandbox
import DexTrail.Settings.Verbosity
