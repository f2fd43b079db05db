import Bbsim.GoMap
import Bbsim.Devices.Types
import Bbsim.Devices.Ledger
import Bbsim.Devices.Topology
import Bbsim.Devices.Flows
import Bbsim.Devices.Handlers
import Bbsim.Devices.Lifecycle
import Bbsim.Devices.Reports
import Bbsim.Ledger.Spec
import Bbsim.Flows.Spec
import Bbsim.Handlers.Spec
import Bbsim.System.Step
import Bbsim.System.Ledgers
import Bbsim.System.Runs
import Bbsim.Lifecycle.Spec
import Bbsim.System.Settled
import Bbsim.Flows.Compose
import Bbsim.System.Perf
import Bbsim.System.Enable
import Bbsim.System.Heartbeat
import Bbsim.System.Activated
import Bbsim.Reports.Spec
import Bbsim.Concurrency.Sections
import Bbsim.Concurrency.Channel
import Bbsim.Concurrency.Safety
import Bbsim.Concurrency.Schedules
