import Signage.Index.Compiler
import Signage.Poll.Repository
import Signage.Poll.Response
import Signage.Poll.Strategy

/-!
Polls. A device that cannot be told is rejected; every other failure makes the device go on with
what it has.
-/
namespace Signage.Poll

open Identity (Device)

/-- What answers polls. -/
structure Dispatcher where
  compiler : Index.Compiler
  /-- The directory of the files that are the same for all players. -/
  fixtures : List Char
  outages : Index.Outages

/-- What follows once it is known whether a device is stored: what it reports is noted if it is
something new, and a device that was not seen is registered. -/
def settle {σ : Type} (repository : Repository σ) (device : Device) (found : Option Player)
    (state : σ) : Reply Player × σ :=
  match found with
  | some player =>
    if player.firmware = device.firmware ∧ player.model = device.model then
      (.works player, state)
    else
      match repository.touch device state with
      | (.works _, state) => (.works (updated device player), state)
      | (.fails error, state) => (.fails error, state)
      | (.hangs, state) => (.hangs, state)
  | none => repository.register device state

/-- The player of a device, as it reports itself. -/
def loadPlayer {σ : Type} (repository : Repository σ) (device : Device) (state : σ) :
    Reply Player × σ :=
  match repository.find device.uuid state with
  | .works found => settle repository device found state
  | .fails error => (.fails error, state)
  | .hangs => (.hangs, state)

/-- The path of the file that a player is sent. -/
def Dispatcher.filePath (dispatcher : Dispatcher) (sources : Content.Sources)
    (now : Calendar.Clock) (player : Player) : Files.Work (List Char) :=
  match Strategy.ofPlayer player with
  | .fixture name => return Files.join dispatcher.fixtures name.toList
  | .compile => dispatcher.compiler.compile dispatcher.outages sources now player
  | .fail reason => throw (.status reason)

def Dispatcher.answer (dispatcher : Dispatcher) (sources : Content.Sources)
    (now : Calendar.Clock) (since : Option (List Char)) (player : Player) :
    Files.Work Response := do
  let path ← dispatcher.filePath sources now player
  match answerFrom (← Files.Work.tree) path since with
  | .ok response => return response
  | .error error => throw error

/-- A poll. -/
structure Request where
  userAgent : String
  /-- The date from which the device has its file. -/
  since : Option (List Char)

/-- The answer to a poll, and what the poll leaves behind. -/
def Dispatcher.dispatch {σ : Type} (dispatcher : Dispatcher) (repository : Repository σ)
    (sources : Content.Sources) (now : Calendar.Clock) (request : Request)
    (state : σ) (fs : Files.FileSystem) : Response × σ × Files.FileSystem :=
  let device := Identity.ofUserAgent request.userAgent
  if device.isKnown then
    match loadPlayer repository device state with
    | (.works player, state) =>
      match Files.Work.on fs (dispatcher.answer sources now request.since player) with
      | (.ok response, fs) => (response, state, fs)
      | (.error _, fs) => (.fallback, state, fs)
    | (_, state) => (.fallback, state, fs)
  else (.rejected, state, fs)

end Signage.Poll
