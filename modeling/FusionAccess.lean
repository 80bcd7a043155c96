import FusionAccess.Controller.HelperContracts
import FusionAccess.Controller.Reconcile
import FusionAccess.Controller.DataLossGuard
import FusionAccess.Controller.ForeignStorageClasses
import FusionAccess.Controller.NoResurrection
import FusionAccess.Controller.Readiness
import FusionAccess.Controller.TeardownOrder
import FusionAccess.Controller.DeviceImmutability
import FusionAccess.Controller.LocalDiskGroups
import FusionAccess.Controller.LegacyGroups
import FusionAccess.Controller.LocalDiskCoverage
import FusionAccess.Controller.MigrationProgress
import FusionAccess.Controller.StatusPatches
import FusionAccess.Console.Agreement
import FusionAccess.Controller.MigratedDevices
import FusionAccess.Controller.SharedDisks
import FusionAccess.Controller.ValidatedDevices
import FusionAccess.Discovery.Publication
import FusionAccess.Controller.MigratedPools
import FusionAccess.Controller.AuditTrail
import FusionAccess.Controller.Stalls
import FusionAccess.Controller.ConditionTypes
import FusionAccess.Controller.Settling
import FusionAccess.Installation.BuildGap
import FusionAccess.Installation.Singleton
import FusionAccess.Installation.RegistryCredentials
import FusionAccess.Controller.StaleBlock
import FusionAccess.Controller.Leftovers
import FusionAccess.Console.NodeSelection
import FusionAccess.Controller.DevicePaths
import FusionAccess.Controller.CreationLoop
import FusionAccess.Controller.Recovery
import FusionAccess.Controller.MigrationRaces
import FusionAccess.Controller.UndisturbedMigration
import FusionAccess.Controller.LocalDiskNames
import FusionAccess.Discovery.ResultNames
import FusionAccess.Discovery.PublishedLegs
import FusionAccess.Discovery.FreeDevices
import FusionAccess.Discovery.PublishedPaths
import FusionAccess.Installation.MergeRounds
import FusionAccess.Installation.MergeLaws
import FusionAccess.Installation.MergeOrder
import FusionAccess.Controller.ListOrder
import FusionAccess.Controller.HealthOrder
import FusionAccess.Controller.SpecDrift
import FusionAccess.Controller.StorageClassGate
import FusionAccess.Console.Alerts
import FusionAccess.Console.NodeMemory
import FusionAccess.Console.LunSelection
import FusionAccess.Console.SharedDisksCount
import FusionAccess.Discovery.UniqueDevices
import FusionAccess.Discovery.LocalVolumeDiscovery
import FusionAccess.Discovery.OrphanResults
import FusionAccess.Discovery.FailedApplies
import FusionAccess.Installation.Entitlement
import FusionAccess.Installation.ImageCheck
import FusionAccess.Kubernetes.Yaml
import FusionAccess.Installation.CoreImage
import FusionAccess.Installation.ImageReferences
import FusionAccess.Installation.ManifestUrl
import FusionAccess.Installation.ConsolePlugin
import FusionAccess.Installation.StatusReports
import FusionAccess.Installation.Watches
import FusionAccess.Controller.ReadyInTenPasses
import FusionAccess.Controller.TeardownCompletes
import FusionAccess.Discovery.PromptProbes
import FusionAccess.Discovery.RestedResults
import FusionAccess.Controller.WatchedClaims
import FusionAccess.Controller.WatchedTeardowns
