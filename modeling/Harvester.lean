import Harvester.Addon.Quiescence
import Harvester.BackendStorage.Budget
import Harvester.Backup.Init
import Harvester.Backup.Metadata
import Harvester.Backup.Progress
import Harvester.Image.CdiIsolation
import Harvester.Image.Import
import Harvester.Image.Isolation
import Harvester.Installer.Disks
import Harvester.Installer.Netmask
import Harvester.Kubevirt.MigrationNetworkRuns
import Harvester.Maintenance.Restart
import Harvester.Node.CpuManagerExclusion
import Harvester.Node.DownRuns
import Harvester.Node.PromoteRuns
import Harvester.ResourceQuota.Compensation
import Harvester.ResourceQuota.Leak
import Harvester.ResourceQuota.Scaling
import Harvester.Restore.Exclusivity
import Harvester.Restore.Initialised
import Harvester.Restore.Progress
import Harvester.Restore.Secrets
import Harvester.ScheduleVMBackup.Bounds
import Harvester.ScheduleVMBackup.Collect
import Harvester.ScheduleVMBackup.Cron
import Harvester.Setting.ContainerdRegistry
import Harvester.Setting.NetworkCount
import Harvester.Setting.PodSecurity
import Harvester.Setting.VipPools
import Harvester.Template.Versions
import Harvester.Upgrade.Acknowledge
import Harvester.Upgrade.Detector
import Harvester.Upgrade.Monotone
import Harvester.Upgrade.NodeMachine
import Harvester.Upgrade.OneNode
import Harvester.Upgrade.Preload
import Harvester.Upgrade.Purge
import Harvester.Upgrade.Remove
import Harvester.Upgrade.Settings
import Harvester.VirtualMachine.Create
import Harvester.VirtualMachine.ImageAccess
import Harvester.VirtualMachine.MacAddress
import Harvester.VirtualMachine.MigratableNodes
import Harvester.VirtualMachine.ObservedMac
import Harvester.VirtualMachine.Removal
import Harvester.VirtualMachine.Stopping
import Harvester.VirtualMachine.Target
