import SpaceGateway.Client
/-!
One remote server and its client. They are made together, and they go together when nobody holds the
server any more.
-/
namespace SpaceGateway

structure Server where
  info : ServerInfo
  client : Client
  /-- How many hold the server: the registry, tasks, others. -/
  holders : Nat
  deriving DecidableEq, Repr

namespace Server

/-- A server that is held once. -/
def create (receiveBuffer : Nat) (info : ServerInfo) : Server × List Event :=
  ({ info, client := { peer := ⟨info.identity, info.address, receiveBuffer⟩ }, holders := 1 },
    [.log (.serverCreated info.identity info.address)])

def isAlive (s : Server) : Bool := s.holders != 0

/-- One more holds the server. -/
def hold (s : Server) : Server := { s with holders := s.holders + 1 }

/-- What is seen when a server goes. -/
def destroy (s : Server) : Server × List Event :=
  let live := s.client.subscriptions.length
  let warning : List Event := if live = 0 then [] else [.log (.serverLive s.info.identity live)]
  let (client, ev) := s.client.abandon
  ({ s with client, holders := 0 }, warning ++ .log (.serverDestroyed s.info.identity) :: ev)

/-- One less holds the server. -/
def letGo (s : Server) : Server × List Event :=
  if s.holders = 0 then (s, [])
  else if s.holders = 1 then s.destroy
  else ({ s with holders := s.holders - 1 }, [])

end Server
end SpaceGateway
