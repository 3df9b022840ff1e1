import SpaceGateway.Exchange
/-!
The client side of one server: where it is, the sessions that several calls may use, and the
subscriptions that keep a session open. A shared session is used by one call at a time, first come,
first served, and is given up when nobody knows of it any more.
-/
namespace SpaceGateway

abbrev CallId := Nat

/-- A shared session is known by its place among all that were ever shared. -/
abbrev SessionId := Nat

structure Shared where
  session : Session
  /-- The call that uses the session, and behind it those that wait for their turn. -/
  line : List CallId := []
  /-- How many know of the session: its table entry, a name, calls. -/
  holders : Nat := 1
  deriving DecidableEq, Repr

structure Client where
  peer : Peer
  sessions : List Shared := []
  /-- The live subscriptions. -/
  subscriptions : List (String × SessionId) := []
  deriving DecidableEq, Repr

namespace Client

def find? (c : Client) (subscription : String) : Option SessionId :=
  c.subscriptions.lookup subscription

def has (c : Client) (subscription : String) : Bool := (c.find? subscription).isSome

def session? (c : Client) (id : SessionId) : Option Session := c.sessions[id]?.map Shared.session

/-- Whether a call uses the session or waits for it. -/
def isBusy (c : Client) (id : SessionId) : Bool :=
  c.sessions[id]?.any fun s => !s.line.isEmpty

def isOpen (c : Client) (id : SessionId) : Bool := c.sessions[id]?.any (·.session.isOpen)

def modify (c : Client) (id : SessionId) (f : Shared → Shared) : Client :=
  { c with sessions := c.sessions.modify id f }

def put (c : Client) (id : SessionId) (s : Session) : Client :=
  c.modify id fun x => { x with session := s }

/-- Shares a session. Its first holder is whoever asks for this. -/
def share (c : Client) (s : Session) : SessionId × Client :=
  (c.sessions.length, { c with sessions := c.sessions ++ [{ session := s }] })

/-- One more knows of the session. -/
def hold (c : Client) (id : SessionId) : Client :=
  c.modify id fun x => { x with holders := x.holders + 1 }

/-- One less knows of the session. -/
def letGo (c : Client) (id : SessionId) : Client × List Event :=
  match c.sessions[id]? with
  | none => (c, [])
  | some x =>
    if x.holders ≤ 1 then
      let (s, ev) := x.session.abandon
      (c.modify id fun x => { x with session := s, holders := 0 }, ev)
    else (c.modify id fun x => { x with holders := x.holders - 1 }, [])

/-- A call joins the line for a session. -/
def join (c : Client) (id : SessionId) (k : CallId) : Client :=
  c.modify id fun x => { x with line := x.line ++ [k] }

/-- A call leaves the line, and knows of the session no more. -/
def leave (c : Client) (id : SessionId) (k : CallId) : Client × List Event :=
  (c.modify id fun x => { x with line := x.line.erase k }).letGo id

/-- Whether it is a call's turn to use the session. -/
def isTurn (c : Client) (id : SessionId) (k : CallId) : Bool :=
  c.sessions[id]?.any fun x => x.line.head? == some k

/-- Enters a session under a subscription's name, unless the name is taken. Then the session is
closed. -/
def register (c : Client) (subscription : String) (s : Session) : Bool × Client × List Event :=
  if c.has subscription then
    (false, c, .log (.subscriptionTaken subscription) :: s.close.2)
  else
    let (id, c) := c.share s
    (true, { c with subscriptions := c.subscriptions ++ [(subscription, id)] }, [])

/-- As `register`, for a session that is shared already. The table takes the place of a holder. -/
def enter (c : Client) (subscription : String) (id : SessionId) : Bool × Client × List Event :=
  if c.has subscription then
    let closing := (c.session? id).elim [] fun s => s.close.2
    (false, c.modify id fun x => { x with session := x.session.close.1, holders := 0 },
      .log (.subscriptionTaken subscription) :: closing)
  else (true, { c with subscriptions := c.subscriptions ++ [(subscription, id)] }, [])

/-- Takes a subscription out of the table. Whoever does this now knows of its session. -/
def unlink? (c : Client) (subscription : String) : Option (SessionId × Client) :=
  (c.find? subscription).map fun id =>
    (id, { c with subscriptions := c.subscriptions.filter (·.1 != subscription) })

/-- Gives up all sessions, in the order of their connections, when the client goes. -/
def abandon (c : Client) : Client × List Event :=
  let ordered := c.sessions.mergeSort fun a b => a.session.conn ≤ b.session.conn
  ({ c with
      sessions := c.sessions.map fun x => { x with session := x.session.abandon.1, holders := 0 }
      subscriptions := [] },
    ordered.flatMap (·.session.abandon.2))

end Client
end SpaceGateway
