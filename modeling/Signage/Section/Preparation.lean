import Signage.Section.Metadata
import Signage.Section.Playback
import Signage.Section.Regions
import Signage.Section.Standby
import Signage.Section.Subscription

/-! All sections of an index, prepared from what is known of the player. -/
namespace Signage.Section

/-- Everything that an index is made from. -/
structure Subject where
  player : Player
  content : Content.Composition
  targets : Targets
  /-- Whether the template knows nothing but items. -/
  simple : Bool
  today : Calendar.Date

def Subject.rows (subject : Subject) : Kind → List Row
  | .metadata => metadataRows subject.player
  | .layout => layoutRows subject.player
  | .playlist => playlistRows subject.player subject.content subject.simple
  | .screenTimes => standbyRows subject.player subject.today
  | .subscriptions => subscriptionRows subject.player subject.targets

/-- The rows of all sections. -/
def Subject.table (subject : Subject) : Table :=
  Kind.all.map fun kind => (kind.name, subject.rows kind)

end Signage.Section
