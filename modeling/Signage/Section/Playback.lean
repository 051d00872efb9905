import Signage.Content.Composition
import Signage.Number.Saturating
import Signage.Section.Row

/-! The composed markup, and how far ahead the device fetches media. -/
namespace Signage.Section

def shortestWindow : UInt64 := 900

/-- The seconds a device looks ahead when it fetches media. A playlist that fits into one poll
interval gets two intervals, a longer one gets one interval more than it takes to play through. -/
def prefetchWindow (duration refresh : UInt64) : UInt64 :=
  let interval := max refresh 1
  let window :=
    if duration ≤ interval then Number.mulSaturating interval 2
    else Number.mulSaturating (Number.addSaturating (Number.divUp duration interval) 1) interval
  max window shortestWindow

/-- The one row of the section; `simple` is for templates that know nothing but items. -/
def playlistRows (player : Player) (content : Content.Composition) (simple : Bool) : List Row :=
  if simple then [[("items", content.items)]]
  else
    [[("items", content.items), ("exclusive", content.exclusive), ("prefetch", content.prefetch),
      ("prefetch_refresh_time",
        Text.numeral (prefetchWindow player.duration player.refresh).toNat)]]

end Signage.Section
