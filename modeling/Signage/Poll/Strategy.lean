import Signage.Player.Basic

/-! What a poll of a player is answered with, by the status of the player. -/
namespace Signage.Poll

/-- How a poll is answered. -/
inductive Strategy where
  /-- With a file that is the same for all players. -/
  | fixture (name : String)
  /-- With the index of the player itself. -/
  | compile
  /-- Not at all, so that the device goes on with what it has. -/
  | fail (reason : String)
  deriving DecidableEq, Repr

namespace Strategy

def unreleased : Strategy := fixture "unreleased.smil"

/-- What a released player gets that has nothing to play. -/
def withoutPlaylist : Strategy := fixture "released_no_playlist.smil"

/-- A file that tries out one ability of a device. -/
def simulation (name : String) : Strategy := fixture ("simulations/" ++ name ++ ".smil")

/-- How a poll of the player is answered. -/
def ofPlayer (player : Player) : Strategy :=
  match player.status with
  | .unregistered | .unreleased => unreleased
  | .released => if player.playlistId.isAssigned then compile else withoutPlaylist
  | .debugFtp => simulation "debug_ftp"
  | .testSmilOk => simulation "test_smil_ok"
  | .testSmilError => simulation "test_smil_error"
  | .testNoContent => simulation "test_no_content"
  | .testNoPrefetch => simulation "test_no_prefetch"
  | .testException => fail "test exception requested"
  | .unknown code => fail ("unknown player status " ++ .ofList (Text.integerNumeral code.toInt))

end Strategy
end Signage.Poll
