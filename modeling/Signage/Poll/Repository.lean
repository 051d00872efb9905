import Signage.Error
import Signage.Identity.UserAgent
import Signage.Player.Basic

/-! Where the players that poll are kept. -/
namespace Signage.Poll

open Identity (Device)

/-- How a call to a repository ends. -/
inductive Reply (α : Type) where
  | works (answer : α)
  | fails (error : Error)
  /-- There is no answer in time. -/
  | hangs

/-- What a repository keeps in a state can be asked and changed by three calls, each of which is
one step. -/
structure Repository (σ : Type) where
  /-- The player of a uuid. -/
  find : String → σ → Reply (Option Player)
  /-- Note the firmware and model that a stored player reports. -/
  touch : Device → σ → Reply Unit × σ
  /-- Keep a player that was not seen before, and tell what is kept. -/
  register : Device → σ → Reply Player × σ

/-- The player that a device is registered as. -/
def newPlayer (device : Device) : Player :=
  .unregistered device.uuid device.name device.firmware device.model

/-- The player as the device reports itself. -/
def updated (device : Device) (player : Player) : Player :=
  { player with firmware := device.firmware, model := device.model }

/-- Players kept in memory, by uuid. -/
abbrev Roster := List (String × Player)

namespace Roster

/-- The roster with a player, in place of any other of the uuid. -/
def put (roster : Roster) (player : Player) : Roster :=
  (player.uuid, player) :: roster.filter fun entry => entry.1 != player.uuid

/-- The roster with the report of a device, if it has the device. -/
def note (roster : Roster) (device : Device) : Roster :=
  roster.map fun (uuid, player) =>
    if uuid = device.uuid then (uuid, updated device player) else (uuid, player)

end Roster

/-- The calls of a repository. -/
inductive Call where
  | find
  | register
  | touch
  deriving DecidableEq, Repr

def Call.name : Call → String
  | find => "find"
  | register => "register"
  | touch => "touch"

/-- What is wrong with a repository. -/
structure Trouble where
  fails : Call → Bool
  hangs : Bool

/-- The reply to a call under trouble, and the state after it. -/
def Trouble.reply {α σ : Type} (trouble : Trouble) (call : Call) (before : σ) (answer : α × σ) :
    Reply α × σ :=
  if trouble.hangs then (.hangs, before)
  else if trouble.fails call then
    (.fails (.database (.other s!"{call.name} failed")), before)
  else (.works answer.1, answer.2)

def rosterRepository (trouble : Trouble) : Repository Roster where
  find uuid roster := (trouble.reply .find roster (roster.lookup uuid, roster)).1
  touch device roster := trouble.reply .touch roster ((), roster.note device)
  register device roster :=
    trouble.reply .register roster (newPlayer device, roster.put (newPlayer device))

end Signage.Poll
