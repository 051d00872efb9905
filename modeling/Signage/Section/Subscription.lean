import Signage.Player.Basic
import Signage.Section.Escape
import Signage.Section.Row

/-! What a device is asked to fetch and to report, and where. -/
namespace Signage.Section

/-- The addresses that devices are told. -/
structure Targets where
  indexUrl : String
  reportServer : String
  deriving DecidableEq

namespace Targets

/-- The address reports are sent below, without slashes at its end. -/
def reportBase (targets : Targets) : List Char :=
  (targets.reportServer.toList.reverse.dropWhile (· == '/')).reverse

/-- The address a player sends one kind of report to. -/
def reportUrl (targets : Targets) (path : String) (uuid : String) : List Char :=
  targets.reportBase ++ '/' :: path.toList ++ '/' :: uuid.toList

end Targets

/-- One kind of report that can be asked for. -/
structure ReportKind where
  isAsked : Reports → Bool
  type : String
  path : String

/-- All kinds of reports, in the order in which they are told. -/
def reportKinds : List ReportKind :=
  [⟨Reports.inventory, "InventoryReport", "inventory"⟩,
    ⟨Reports.playedDurations, "PlaylogCollection", "playlog"⟩,
    ⟨Reports.eventLogs, "EventlogCollection", "eventlog"⟩,
    ⟨Reports.configuration, "Configuration", "configuration"⟩,
    ⟨Reports.executions, "TaskExecutionReport", "execution"⟩]

def subscriptionRow (type : String) (action : List Char) (method : String) : Row :=
  [("type", type.toList), ("action", escape action), ("method", method.toList)]

/-- The subscription to waiting tasks, if there are any. -/
def taskRows (player : Player) (targets : Targets) : List Row :=
  if player.commands.isEmpty then []
  else [subscriptionRow "TaskSchedule" targets.indexUrl.toList "get"]

/-- The subscriptions to the reports that are asked for. -/
def reportRows (player : Player) (targets : Targets) : List Row :=
  (reportKinds.filter fun kind => kind.isAsked player.reports).map fun kind =>
    subscriptionRow kind.type (targets.reportUrl kind.path player.uuid) "put"

/-- The rows of the section. -/
def subscriptionRows (player : Player) (targets : Targets) : List Row :=
  taskRows player targets ++ reportRows player targets

end Signage.Section
