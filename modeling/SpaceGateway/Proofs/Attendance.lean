import SpaceGateway.Proofs.Ledger
import SpaceGateway.Proofs.Protocol
/-!
A worker's step for its task, taken apart: what becomes of the pool, of the servers and of the call,
and what is sent. The step is the next turn of the task's course.
-/
namespace SpaceGateway

/-- The pool after a step of a worker for a task. The task was in the queue before if `taking`, and
is over if there is no call left. -/
def Pool.attended (p : Pool) (taking : Bool) (w : WorkerId) (t : Task) (call? : Option Call) :
    Pool :=
  let p := if taking then p.take else p
  match call? with
  | some call => p.set w (.busy t call)
  | none => p.rejoin w

/-- The servers after one of them has another client. -/
def Registry.withClient (r : Registry) (server : ServerId) (c : Client) : Registry :=
  r.modify server fun x => { x with client := c }

/-- The servers after a step for a task, and what is seen if one of them goes. -/
def Registry.attended (r : Registry) (t : Task) (c : Client) (call? : Option Call) :
    Registry × List Event :=
  match call? with
  | some _ => (r.withClient t.server c, [])
  | none => (r.withClient t.server c).letGo t.server

/-- How a step of a worker for a task comes out: with this client of its server, this call, and this
turn of the task's course. -/
structure Gateway.Attended (g : Gateway) (w : WorkerId) (t : Task) (taking : Bool) (c : Client)
    (call? : Option Call) (n : Turn) (next : Gateway × List Event) : Prop where
  codec : next.1.codec = g.codec
  pool : next.1.pool = g.pool.attended taking w t call?
  registry : next.1.registry = (g.registry.attended t c call?).1
  replies : SpaceGateway.replies next.2 = n.replies.map (t.caller, ·)
  traffic : SpaceGateway.traffic next.2 =
    n.traffic ++ SpaceGateway.traffic (g.registry.attended t c call?).2

/-- The call that goes on after a step for a task. -/
def Task.call? (t : Task) (s : Step) : Option Call :=
  match s.status with
  | .going c => some c
  | .done r => (t.conclude r).follow.map fun sub => .looking ⟨t.node, sub, true⟩

/-- The reply that follows a step, beside those to its notices. -/
def Task.toldBy (t : Task) (s : Step) : List Reply :=
  match s.status with
  | .going _ => []
  | .done r => t.told r

section Events
variable {g : Gateway} {t : Task} {ev ev' : List Event}

@[simp] theorem replies_nil : replies [] = [] := rfl

@[simp] theorem replies_append : replies (ev ++ ev') = replies ev ++ replies ev' := by
  simp [replies]

@[simp] theorem replies_log_cons (e : Log.Entry) (s : Option Span) :
    replies (.log e s :: ev) = replies ev := rfl

@[simp] theorem replies_traffic_cons (x : Traffic) :
    replies (.traffic x :: ev) = replies ev := rfl

@[simp] theorem replies_notice_cons (s : String) (n : Notice) :
    replies (.notice s n :: ev) = replies ev := rfl

@[simp] theorem replies_cons (c : CallerId) (r : Reply) (arrives : Bool) :
    replies (.reply c r arrives :: ev) = (c, r) :: replies ev := rfl

@[simp] theorem replies_entries (l : List Log.Entry) : replies (l.map (Event.log ·)) = [] := by
  simp [replies, List.filterMap_map]

@[simp] theorem traffic_map_during (s : Span) : traffic (ev.map (Event.during s)) = traffic ev := by
  induction ev with
  | nil => rfl
  | cons e ev ih =>
    rw [List.map_cons]
    rcases e with _ | ⟨_, _ | _⟩ | _ | _ <;> simp [Event.during, ih]

@[simp] theorem replies_map_during (s : Span) : replies (ev.map (Event.during s)) = replies ev := by
  induction ev with
  | nil => rfl
  | cons e ev ih =>
    rw [List.map_cons]
    rcases e with _ | ⟨_, _ | _⟩ | _ | _ <;> simp [Event.during, ih]

@[simp] theorem replies_send (caller : CallerId) (r : Reply) :
    replies (g.send caller r) = [(caller, r)] := by
  unfold Gateway.send
  split <;> rfl

@[simp] theorem traffic_send (caller : CallerId) (r : Reply) : traffic (g.send caller r) = [] := by
  unfold Gateway.send
  split <;> rfl

@[simp] theorem replies_relay : replies (ev.flatMap (g.relay t)) = repliesTo t ev := by
  induction ev with
  | nil => rfl
  | cons e ev ih =>
    rw [List.flatMap_cons, replies_append, ih]
    cases e <;> simp [Gateway.relay]

@[simp] theorem traffic_relay : traffic (ev.flatMap (g.relay t)) = traffic ev := by
  induction ev with
  | nil => rfl
  | cons e ev ih =>
    rw [List.flatMap_cons, traffic_append, ih]
    cases e <;> simp [Gateway.relay]

@[simp] theorem replies_abandon (s : Session) : replies s.abandon.2 = [] := by
  unfold Session.abandon
  split <;> rfl

theorem replies_abandon_client (c : Client) : replies c.abandon.2 = [] := by
  have h (l : List Shared) : replies (l.flatMap (·.session.abandon.2)) = [] := by
    induction l with
    | nil => rfl
    | cons x l ih => simp [ih]
  exact h _

@[simp] theorem replies_letGo (r : Registry) (server : ServerId) :
    replies (r.letGo server).2 = [] := by
  cases h : r.servers[server]? with
  | none => simp [Registry.letGo, h]
  | some s =>
    simp only [Registry.letGo, h, Server.letGo]
    split
    · rfl
    · split
      · simp only [Server.destroy, replies_append, replies_log_cons, replies_abandon_client]
        split <;> rfl
      · rfl

end Events

section Steps
variable {g : Gateway} {w : WorkerId} {t : Task} {n : Turn} {s : Step}

theorem replies_told (r : CallResult) :
    replies ((t.conclude r).entries.map (Event.log ·) ++
      (t.conclude r).reply.elim [] (g.send t.caller)) = (t.told r).map (t.caller, ·) := by
  cases h : (t.conclude r).reply <;> simp [Task.told, h]

theorem traffic_told (r : CallResult) :
    traffic ((t.conclude r).entries.map (Event.log ·) ++
      (t.conclude r).reply.elim [] (g.send t.caller)) = [] := by
  cases (t.conclude r).reply <;> simp

/-- The gateway after a step for a task, before it looks at how the call stands. -/
def Gateway.withClient (g : Gateway) (server : ServerId) (c : Client) : Gateway :=
  { g with registry := g.registry.withClient server c }

theorem proceed_going {call : Call} (hs : s.status = .going call) :
    g.proceed w t s =
      ({ g.withClient t.server s.client with pool := g.pool.set w (.busy t call) },
        s.events.flatMap ((g.withClient t.server s.client).relay t)) := by
  simp only [Gateway.proceed, hs]
  rfl

theorem proceed_follow {r : CallResult} {sub : String} (hs : s.status = .done r)
    (hf : (t.conclude r).follow = some sub) :
    g.proceed w t s =
      ({ g.withClient t.server s.client with
          pool := g.pool.set w (.busy t (.looking ⟨t.node, sub, true⟩)) },
        s.events.flatMap ((g.withClient t.server s.client).relay t) ++
          ((t.conclude r).entries.map (Event.log ·) ++
            (t.conclude r).reply.elim [] ((g.withClient t.server s.client).send t.caller))) := by
  simp only [Gateway.proceed, hs, hf]
  rfl

theorem proceed_over {r : CallResult} (hs : s.status = .done r)
    (hf : (t.conclude r).follow = none) :
    g.proceed w t s =
      (((g.withClient t.server s.client).release w t).1,
        s.events.flatMap ((g.withClient t.server s.client).relay t) ++
          ((t.conclude r).entries.map (Event.log ·) ++
            (t.conclude r).reply.elim [] ((g.withClient t.server s.client).send t.caller)) ++
          ((g.withClient t.server s.client).release w t).2) := by
  simp only [Gateway.proceed, hs, hf]
  rfl

theorem proceed_attended
    (hr : repliesTo t s.events ++ (t.toldBy s).map (t.caller, ·) = n.replies.map (t.caller, ·))
    (ht : traffic s.events = n.traffic) :
    g.Attended w t false s.client (t.call? s) n (g.proceed w t s) := by
  cases hs : s.status with
  | going call =>
    have hc : t.call? s = some call := by simp [Task.call?, hs]
    have hn : t.toldBy s = [] := by simp [Task.toldBy, hs]
    rw [proceed_going hs, hc]
    refine ⟨rfl, rfl, rfl, ?_, ?_⟩
    · simpa [hn] using hr
    · simpa [Registry.attended] using ht
  | done r =>
    have hn : t.toldBy s = t.told r := by simp [Task.toldBy, hs]
    rw [hn] at hr
    cases hf : (t.conclude r).follow with
    | some sub =>
      have hc : t.call? s = some (.looking ⟨t.node, sub, true⟩) := by simp [Task.call?, hs, hf]
      rw [proceed_follow hs hf, hc]
      refine ⟨rfl, rfl, rfl, ?_, ?_⟩
      · rw [replies_append, replies_relay, replies_told, hr]
      · rw [traffic_append, traffic_relay, traffic_told, ht]
        rfl
    | none =>
      have hc : t.call? s = none := by simp [Task.call?, hs, hf]
      rw [proceed_over hs hf, hc]
      refine ⟨rfl, rfl, rfl, ?_, ?_⟩
      · rw [replies_append, replies_append, replies_relay, replies_told, hr]
        simp [Gateway.release]
      · rw [traffic_append, traffic_append, traffic_relay, traffic_told, ht, List.append_nil]
        rfl

end Steps

/-- What a task has in the client of its server. -/
structure Holding where
  id : SessionId
  subscription : String
  isListed : Bool

/-- Whether a call of a client is what the stage of its task has it to be. -/
inductive Shows (c : Client) (w : WorkerId) (t : Task) (call : Call) (stage : Stage) :
    Option Holding → Prop
  | alone (isCalling : stage = .calling call) : Shows c w t call stage none
  | sharing (h : Holding) (f : Footprint) (footprint : stage.footprint? t.node w h.id = some f)
    (subject : stage.subscription? = some h.subscription) (isCall : call = f.call)
    (shared : c.sessions[h.id]? = some f.shared) (listed : f.isListed = h.isListed)
    (found : h.isListed = true → c.find? h.subscription = some h.id) :
    Shows c w t call stage (some h)

/-- What a step of a task may make of its client, its call and its stage. -/
inductive Advances (c : Client) (w : WorkerId) (t : Task) :
    Option Holding → Client → Option Call → Stage → Prop
  | alone (call) : Advances c w t none c (some call) (.calling call)
  | fails : Advances c w t none c none .ended
  | enters (subscription s) (free : c.has subscription = false) :
    Advances c w t none
      { c with
        sessions := c.sessions ++ [⟨s, [], 1⟩]
        subscriptions := c.subscriptions ++ [(subscription, c.sessions.length)] }
      (some (.looking ⟨t.node, subscription, true⟩)) (.polling subscription .looking s)
  | stays (h : Holding) (f : Footprint) (stage) (footprint : stage.footprint? t.node w h.id = some f)
    (subject : stage.subscription? = some h.subscription) (listed : f.isListed = h.isListed) :
    Advances c w t (some h) (c.withShared h.id f.shared) (some f.call) stage
  | unlists (h : Holding) (f : Footprint) (stage)
    (footprint : stage.footprint? t.node w h.id = some f)
    (subject : stage.subscription? = some h.subscription) (before : h.isListed = true)
    (after : f.isListed = false) :
    Advances c w t (some h)
      { c.withShared h.id f.shared with
        subscriptions := c.subscriptions.filter (·.1 != h.subscription) }
      (some f.call) stage
  | ends (h : Holding) (s : Session) (closed : s.isOpen = false) (before : h.isListed = false) :
    Advances c w t (some h) (c.withShared h.id ⟨s, [], 0⟩) none .ended

section Advances
variable {codec : Codec} {c : Client} {w : WorkerId} {t : Task} {call : Call} {stage : Stage}

theorem Advances.peer {c' : Client} {own : Option Holding} {call? : Option Call}
    (h : Advances c w t own c' call? stage) : c'.peer = c.peer := by
  cases h <;> rfl

/-- Only a confirmed subscription is followed. -/
theorem conclude_follow {r : CallResult} {sub : String} (h : (t.conclude r).follow = some sub) :
    t.operation.IsSubscribe ∧ ∃ m, r = .message m := by
  obtain ⟨_, _, _, _, _, o⟩ := t
  cases o <;> cases r <;> simp [Task.conclude, Task.failure] at h <;>
    first | exact ⟨trivial, _, rfl⟩ | (split at h <;> cases h)

theorem conclude_subscribe {m : Message} {sub : String} (h : t.operation.IsSubscribe)
    (hm : m.subscription = some sub) : (t.conclude (.message m)).follow = some sub := by
  obtain ⟨_, _, _, _, _, o⟩ := t
  cases o <;> first | exact h.elim | simp [Task.conclude, hm]

theorem conclude_followed (h : t.operation.IsSubscribe) :
    t.conclude .followed = {} := by
  obtain ⟨_, _, _, _, _, o⟩ := t
  cases o <;> first | exact h.elim | rfl

theorem follow_answered {purpose : Purpose} {p : Session.Progress} {m : Message}
    (h : (Exchange.follow purpose p).1 = .answered m) : purpose ≠ .keep := by
  cases p <;> simp only [Exchange.follow] at h <;> (try split at h) <;> simp_all

theorem resume_answered {parser : Parser} {peer : Peer} {purpose : Purpose} {request : Bytes}
    {x : Exchange} {a : Answer} {m : Message}
    (h : (x.resume parser peer purpose request a).1 = .answered m) : purpose ≠ .keep := by
  unfold Exchange.resume at h
  split at h
  · dsimp only at h
    split at h
    · cases h
    · exact follow_answered h
  · cases h
  · exact follow_answered h
  · cases h

theorem exchanged_message {aim : Aim} {request : Bytes} {p : Exchange.Progress} {m : Message}
    (h : (Call.exchanged c aim request p).status = .done (.message m)) :
    ∃ m', p = .answered m' := by
  cases p with
  | answered m' => exact ⟨m', rfl⟩
  | kept m' s =>
    simp only [Call.exchanged] at h
    split at h
    · split at h
      · cases h
      · split at h <;> cases h
    · cases h
  | _ => cases h

/-- An exchange of a task alone is not followed by notices. -/
theorem exchange_call {request : Bytes} {x : Exchange} {a : Answer} {r : CallResult}
    (h : ((Call.exchanging t.aim request x).resume codec.parser c w a).status = .done r) :
    (t.conclude r).follow = none := by
  cases hf : (t.conclude r).follow with
  | none => rfl
  | some sub =>
    obtain ⟨ho, m, rfl⟩ := conclude_follow hf
    obtain ⟨m', hm⟩ := exchanged_message h
    exact (resume_answered hm (isSubscribe_iff.1 ho)).elim

/-- How a step of a call agrees with a turn of its task's course. -/
structure Moves (c : Client) (w : WorkerId) (t : Task) (own : Option Holding) (s : Step) (n : Turn) :
    Prop where
  advances : Advances c w t own s.client (t.call? s) n.stage
  replies : repliesTo t s.events ++ (t.toldBy s).map (t.caller, ·) = n.replies.map (t.caller, ·)
  traffic : SpaceGateway.traffic s.events = n.traffic

theorem progressed_subject {space sub : String} {p : Session.Progress} :
    (Stage.progressed t space sub p).stage.subscription? = some sub := by
  cases p <;> simp only [Stage.progressed, Stage.noticed] <;> (try split) <;> rfl

theorem next_subject {peer : Peer} {sub : String} (h : stage.subscription? = some sub) (i : Input) :
    (stage.next codec peer t i).stage.subscription? = some sub ∨
      (stage.next codec peer t i).stage = .ended := by
  cases stage with
  | queued | calling | ended => cases h
  | polling _ post s =>
    cases h
    left
    cases i <;> cases post <;> first | rfl | exact progressed_subject
  | closing _ x post s =>
    cases h
    cases i <;> cases post <;> first | exact .inl rfl | exact .inr rfl

theorem Matches.moves {h : Holding} {n : Turn} {s : Step}
    (hm : Matches c w h.id t h.subscription h.isListed n s) (ho : t.operation.IsSubscribe)
    (hn : n.stage.subscription? = some h.subscription ∨ n.stage = .ended) :
    Moves c w t (some h) s n := by
  have subject {f : Footprint} (hf : n.stage.footprint? t.node w h.id = some f) :
      n.stage.subscription? = some h.subscription := by
    rcases hn with hn | hn
    · exact hn
    · simp [hn, Stage.footprint?] at hf
  cases hm.agrees with
  | stays f hf hs hc hl =>
    have hcall : t.call? s = some f.call := by simp [Task.call?, hs]
    have htold : t.toldBy s = [] := by simp [Task.toldBy, hs]
    refine ⟨?_, by simpa [htold] using hm.replies, hm.traffic⟩
    rw [hcall, hc]
    exact .stays h f _ hf (subject hf) hl
  | unlists f hf hs hc hb ha =>
    have hcall : t.call? s = some f.call := by simp [Task.call?, hs]
    have htold : t.toldBy s = [] := by simp [Task.toldBy, hs]
    refine ⟨?_, by simpa [htold] using hm.replies, hm.traffic⟩
    rw [hcall, hc]
    exact .unlists h f _ hf (subject hf) hb ha
  | ends s' hst hs hc hclosed hb =>
    have hcall : t.call? s = none := by simp [Task.call?, hs, conclude_followed ho]
    have htold : t.toldBy s = [] := by simp [Task.toldBy, hs, Task.told, conclude_followed ho]
    refine ⟨?_, by simpa [htold] using hm.replies, hm.traffic⟩
    rw [hcall, hc, hst]
    exact .ends h s' hclosed hb

theorem isSubscribe_of_subject {sub : String} (hf : stage.Fits t)
    (hs : stage.subscription? = some sub) : t.operation.IsSubscribe := by
  cases stage with
  | queued | calling | ended => cases hs
  | polling => exact hf
  | closing => exact hf.1

theorem conclude_failed (e : Error) : (t.conclude (.failed e)).follow = none := by
  cases hf : (t.conclude (.failed e)).follow with
  | none => rfl
  | some sub =>
    obtain ⟨-, m, hm⟩ := conclude_follow hf
    cases hm

theorem registering_moves {m : Message} {sub : String} {s : Session}
    (hf : (Stage.calling (.registering m sub s)).Fits t) :
    Moves c w t none ((Call.registering m sub s).step codec.parser c w)
      (Stage.next codec c.peer t (.calling (.registering m sub s)) (.step !c.has sub)) := by
  cases hh : c.has sub with
  | false =>
    rw [register_free hh]
    refine ⟨?_, ?_, ?_⟩
    · simpa [Task.call?, conclude_subscribe hf.1 hf.2, Stage.next] using Advances.enters sub s hh
    · simp [Task.toldBy, Stage.next]
    · simp [Stage.next]
  | true =>
    rw [register_taken hh]
    refine ⟨?_, ?_, ?_⟩
    · simpa [Task.call?, conclude_failed, Stage.next] using Advances.fails
    · simp [Task.toldBy, Stage.next]
    · simp [Stage.next]

theorem exchanging_moves {request : Bytes} {x : Exchange} (a : Answer) :
    Moves c w t none ((Call.exchanging t.aim request x).resume codec.parser c w a)
      (Stage.next codec c.peer t (.calling (.exchanging t.aim request x)) (.answer a)) := by
  have hr := @repliesTo_resume_exchanging codec.parser c w t t.aim request x a
  have he := @exchange_call codec c w t request x a
  rw [resume_exchanging] at hr he ⊢
  simp only [Stage.next, Stage.settled]
  cases hs : ((Call.exchanging t.aim request x).resume codec.parser { peer := c.peer } 0 a).status with
  | going call =>
    refine ⟨?_, ?_, rfl⟩
    · simpa [Task.call?, hs] using Advances.alone call
    · simpa [Task.toldBy, hs] using hr
  | done r =>
    refine ⟨?_, ?_, rfl⟩
    · simpa [Task.call?, hs, he hs] using Advances.fails
    · simpa [Task.toldBy, hs] using hr

/-- A step that needs no answer. What it finds of the table is what the course goes by. -/
theorem step_moves {own : Option Holding} (hs : Shows c w t call stage own) (hf : stage.Fits t)
    {free : Bool} (hfree : ∀ m sub s, call = .registering m sub s → free = !c.has sub) :
    Moves c w t own (call.step codec.parser c w) (stage.next codec c.peer t (.step free)) := by
  cases hs with
  | sharing h f hg hsub hc hx hl hfound =>
    rw [hc]
    have hm := step_matches codec hg hsub hx (fun hl' => hfound (hl ▸ hl')) hf free
    rw [hl] at hm
    exact hm.moves (isSubscribe_of_subject hf hsub) (next_subject hsub _)
  | alone hst =>
    subst hst
    cases call with
    | exchanging aim request x =>
      refine ⟨?_, rfl, rfl⟩
      exact .alone _
    | registering m sub s =>
      rw [hfree m sub s rfl]
      exact registering_moves hf
    | _ => exact hf.elim

/-- A step with an answer of the network. -/
theorem resume_moves {own : Option Holding} (hs : Shows c w t call stage own) (hf : stage.Fits t)
    (a : Answer) :
    Moves c w t own (call.resume codec.parser c w a) (stage.next codec c.peer t (.answer a)) := by
  cases hs with
  | sharing h f hg hsub hc hx hl hfound =>
    rw [hc]
    have hm := resume_matches codec hg hsub hx a
    rw [hl] at hm
    exact hm.moves (isSubscribe_of_subject hf hsub) (next_subject hsub _)
  | alone hst =>
    subst hst
    cases call with
    | exchanging aim request x =>
      cases hf
      exact exchanging_moves a
    | registering m sub s => exact ⟨.alone _, rfl, rfl⟩
    | _ => exact hf.elim

end Advances

section Workers
variable {g : Gateway} {w : WorkerId} {t : Task} {c : Client} {call : Call} {stage : Stage}
variable {own : Option Holding}

/-- How a worker's step comes out: the pool, the servers and what is sent, and the client, the call
and the stage. -/
def Gateway.Serves (g : Gateway) (w : WorkerId) (t : Task) (taking : Bool) (c : Client)
    (own : Option Holding) (n : Turn) (next : Gateway × List Event) : Prop :=
  ∃ c' call?, g.Attended w t taking c' call? n next ∧ Advances c w t own c' call? n.stage

theorem Gateway.Attended.during {taking : Bool} {call? : Option Call} {n : Turn}
    {next : Gateway × List Event} (h : g.Attended w t taking c call? n next) (s : Span) :
    g.Attended w t taking c call? n (next.1, next.2.map (Event.during s)) :=
  ⟨h.codec, h.pool, h.registry, by simpa using h.replies, by simpa using h.traffic⟩

/-- What a worker makes a step for its task of: a call that begins or is over at once, or a step of
one that goes on. -/
inductive Call.Makes (parser : Parser) (c : Client) (w : WorkerId) : Step → Prop
  | begins (status : CallStatus) : Makes parser c w ⟨c, status, []⟩
  | steps (call : Call) : Makes parser c w (call.step parser c w)
  | resumes (call : Call) (a : Answer) : Makes parser c w (call.resume parser c w a)

/-- How a worker's step comes about: from a step of its task's call, which agrees with a turn of the
task's course. -/
structure Gateway.Proceeds (g : Gateway) (w : WorkerId) (t : Task) (taking : Bool) (c : Client)
    (own : Option Holding) (n : Turn) (s : Step) (next : Gateway × List Event) : Prop where
  makes : Call.Makes g.codec.parser c w s
  moves : Moves c w t own s n
  next : next = ((Gateway.proceed { g with pool := if taking then g.pool.take else g.pool } w t s).1,
    (Gateway.proceed { g with pool := if taking then g.pool.take else g.pool } w t s).2.map
      (Event.during (g.span t)))

theorem Gateway.Proceeds.attended {taking : Bool} {n : Turn} {s : Step}
    {next : Gateway × List Event} (h : g.Proceeds w t taking c own n s next) :
    g.Attended w t taking s.client (t.call? s) n next := by
  have ha := (@proceed_attended { g with pool := if taking then g.pool.take else g.pool } w t n s
    h.moves.replies h.moves.traffic).during (g.span t)
  rw [← h.next] at ha
  refine ⟨ha.codec, ?_, ha.registry, ha.replies, ha.traffic⟩
  rw [ha.pool]
  cases taking <;> rfl

theorem Gateway.Proceeds.serves {taking : Bool} {n : Turn} {s : Step}
    {next : Gateway × List Event} (h : g.Proceeds w t taking c own n s next) :
    g.Serves w t taking c own n next :=
  ⟨_, _, h.attended, h.moves.advances⟩

theorem findsFree_registering {m : Message} {sub : String} {s : Session}
    (hw : g.pool.workers[w]? = some (.busy t (.registering m sub s)))
    (hc : g.client? t.server = some c) : g.findsFree w = !c.has sub := by
  simp [Gateway.findsFree, hw, hc]

theorem workerStep_proceeds (hw : g.pool.workers[w]? = some (.busy t call))
    (hc : g.client? t.server = some c) (hs : Shows c w t call stage own) (hf : stage.Fits t) :
    ∃ s, g.Proceeds w t false c own (stage.next g.codec c.peer t (.step (g.findsFree w))) s
      (g.workerStep w) := by
  refine ⟨call.step g.codec.parser c w, .steps call, ?_, ?_⟩
  · apply step_moves hs hf
    intro m sub s he
    subst he
    exact findsFree_registering hw hc
  · simp only [Gateway.workerStep, hw, hc]
    rfl

theorem workerResume_proceeds (hw : g.pool.workers[w]? = some (.busy t call))
    (hc : g.client? t.server = some c) (hs : Shows c w t call stage own) (hf : stage.Fits t)
    (a : Answer) : ∃ s, g.Proceeds w t false c own (stage.next g.codec c.peer t (.answer a)) s
      (g.workerResume w a) := by
  refine ⟨call.resume g.codec.parser c w a, .resumes call a, resume_moves hs hf a, ?_⟩
  simp only [Gateway.workerResume, hw, hc]
  rfl

theorem begin_proceeds (hc : g.client? t.server = some c) (free : Bool) :
    ∃ s, Call.Makes g.codec.parser c w s ∧
      Moves c w t none s (Stage.next g.codec c.peer t .queued (.step free)) ∧
      g.begin w t = g.proceed w t s := by
  simp only [Gateway.begin, hc, Stage.next, Call.ofCommand_command]
  cases g.codec.build (t.request c.peer.space) with simp only [Except.map]
  | ok b =>
    exact ⟨⟨c, .going (.exchanging t.aim b .connecting), []⟩, .begins _, ⟨.alone _, rfl, rfl⟩, rfl⟩
  | error f =>
    refine ⟨⟨c, .done (.failed (.codec f)), []⟩, .begins _, ⟨?_, rfl, rfl⟩, rfl⟩
    simpa [Task.call?, conclude_failed] using Advances.fails

theorem workerStep_takes {rest : List Task} (hw : g.pool.workers[w]? = some .inLine)
    (hl : g.pool.line.head? = some w) (hq : g.pool.queue = t :: rest)
    (hc : g.client? t.server = some c) (free : Bool) :
    ∃ s, g.Proceeds w t true c none (Stage.next g.codec c.peer t .queued (.step free)) s
      (g.workerStep w) := by
  obtain ⟨s, hmakes, hmoves, hb⟩ := @begin_proceeds { g with pool := g.pool.take } w t c hc free
  refine ⟨s, hmakes, hmoves, ?_⟩
  simp only [Gateway.workerStep, hw, hl, Pool.chance, hq, if_true, hb]

end Workers
end SpaceGateway
