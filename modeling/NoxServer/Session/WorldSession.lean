import NoxServer.Shared.WorldPacket

/-!
`WorldSession` (`WorldSession.h`, `WorldSession.cpp`): what the server keeps for one
client, and the short methods on it.

The player and the socket are pointers that a session only tests for NULL, so each is
kept as "not NULL". The packet that collects what is to be sent is the source's member
`sendPacket`; it is `combined` here, after the comment it carries there, because the
method of the same name keeps the name.
-/

namespace NoxServer

inductive SessionStatus where
  | authed
  | confirmed
  | loggedIn
  deriving DecidableEq, Repr

/-- `GridPair`: a place on the map. -/
structure GridPair where
  x_coord : UInt32 := 0
  y_coord : UInt32 := 0
  deriving DecidableEq, Repr

namespace Session

def timeoutMs : UInt32 := 30000

structure WorldSession where
  player : Bool := false
  socket : Bool := true
  client : ClientAddr := 0
  combined : WorldPacket := {}
  accountId : UInt32
  mouse : GridPair := {}
  logoutTime : Int := 0
  playerLoading : Bool := false
  playerRecentlyLogout : Bool := false
  playerObserving : Bool := true
  playerDownloading : Int32 := 0
  connTimer : UInt32 := timeoutMs
  xorKey : UInt8 := 0
  status : SessionStatus := .authed
  timestamp : UInt32 := 1000
  unk : UInt8 := 0
  unk2 : UInt8 := 0
  recvQueue : List WorldPacket := []
  deriving DecidableEq

namespace WorldSession

/-- `WorldSession(id, sock, sec)` with a socket, as `_HandleJoin` calls it. -/
def create (id : UInt32) : WorldSession := { accountId := id }

def setClient (s : WorldSession) (addr : ClientAddr) : WorldSession := { s with client := addr }

def logoutRequest (s : WorldSession) (requestTime : Int) : WorldSession :=
  { s with logoutTime := requestTime }

def shouldLogOut (s : WorldSession) (currTime : Int) : Bool :=
  s.logoutTime > 0 && currTime ≥ s.logoutTime

def logoutPlayer (s : WorldSession) : WorldSession :=
  { s with player := false, socket := false }

def kickPlayer (s : WorldSession) : WorldSession := { s with socket := false }

def queuePacket (s : WorldSession) (packet : WorldPacket) : WorldSession :=
  { s with recvQueue := s.recvQueue ++ [packet] }

end WorldSession

end Session

end NoxServer
