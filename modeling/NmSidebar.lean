import NmSidebar.AmneziaWG.LinkClaim
import NmSidebar.AmneziaWG.DnsCodec
import NmSidebar.AmneziaWG.LinkEvents
import NmSidebar.Helper.Guarantees
import NmSidebar.Helper.Deletion
import NmSidebar.Helper.Replacement
import NmSidebar.Helper.SwitchAdmission
import NmSidebar.Helper.ClassifierAgreement
import NmSidebar.Helper.ActivationOutcome
import NmSidebar.Helper.Inventory
import NmSidebar.Helper.Diagnostics
import NmSidebar.Supervision.SupervisorRuns
import NmSidebar.Supervision.CommitFinal
import NmSidebar.Client.RuntimePending
import NmSidebar.Client.Authorization
import NmSidebar.Client.InventoryRefresh
import NmSidebar.Client.ActionOffers
import NmSidebar.Gui.SocketOwner
import NmSidebar.Core.Ipc
import NmSidebar.Helper.ResolvedRecord
import NmSidebar.Actions.TemporaryWifi
import NmSidebar.Actions.ProfileModel
import NmSidebar.AmneziaWG.GuardContinuity
import NmSidebar.AmneziaWG.Filename
import NmSidebar.Helper.RuntimeListing
import NmSidebar.Sections.DailyUsage
import NmSidebar.Actions.AddressPrefixes
import NmSidebar.Sections.VpnSummary
import NmSidebar.Sections.WifiPlacement
import NmSidebar.Helper.DeadlineArithmetic
import NmSidebar.Helper.Firewall
import NmSidebar.Sections.EditorVersion
import NmSidebar.Sections.ConnectionSettings
import NmSidebar.Supervision.EarnedSuccess
import NmSidebar.Service.Grants
import NmSidebar.Gui.SidebarIntent
import NmSidebar.Client.SingleFlight
import NmSidebar.Client.ActivityRuns
import NmSidebar.Helper.SubprocessResults
import NmSidebar.Client.BackendRuns
import NmSidebar.Helper.DiskStorage
import NmSidebar.Program.Refinement
import NmSidebar.Helper.PowerLoss
