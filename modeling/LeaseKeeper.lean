import LeaseKeeper.Amqp
import LeaseKeeper.CommandLine.Execution
import LeaseKeeper.Config.File
import LeaseKeeper.Config.Json
import LeaseKeeper.Daemon
import LeaseKeeper.Identity.Platform
import LeaseKeeper.Lifecycle.Keeper
import LeaseKeeper.Main
import LeaseKeeper.Proofs.Config.Addresses
import LeaseKeeper.Proofs.Config.Startup
import LeaseKeeper.Proofs.Config.Trimming
import LeaseKeeper.Proofs.Identity.Siblings
import LeaseKeeper.Proofs.Lifecycle.Counting
import LeaseKeeper.Proofs.Lifecycle.Enabling
import LeaseKeeper.Proofs.Lifecycle.Exits
import LeaseKeeper.Proofs.Lifecycle.Gauge
import LeaseKeeper.Proofs.Lifecycle.Holding
import LeaseKeeper.Proofs.Lifecycle.Independence
import LeaseKeeper.Proofs.Lifecycle.OneScope
import LeaseKeeper.Proofs.Lifecycle.Pacing
import LeaseKeeper.Proofs.Registry.Addressing
import LeaseKeeper.Proofs.Registry.Announcement
import LeaseKeeper.Proofs.Registry.Cadence
import LeaseKeeper.Proofs.Registry.Directory
import LeaseKeeper.Proofs.Registry.Failover
import LeaseKeeper.Proofs.Registry.Listings
import LeaseKeeper.Proofs.Registry.Lookup
import LeaseKeeper.Proofs.Registry.Normalizing
import LeaseKeeper.Proofs.Registry.Ports
import LeaseKeeper.Proofs.Registry.Usable
import LeaseKeeper.Proofs.Signal.Agreement
import LeaseKeeper.Proofs.Signal.Conservation
import LeaseKeeper.Registry.Client
import LeaseKeeper.Signal.Subscription
