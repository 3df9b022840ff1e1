import Mathlib.Data.List.Basic
import SpaceGateway.Proofs.Course
/-!
What a task's call leaves of itself in the client of its server: at most one shared session, and at
most one entry of the table. Each step of the call changes these and nothing else.
-/
namespace SpaceGateway

/-- What the client shows of a task that follows a subscription. -/
structure Footprint where
  call : Call
  shared : Shared
  /-- Whether the subscription is in the table. -/
  isListed : Bool

/-- The footprint of a stage, for the call `w` and the session `id`. -/
def Stage.footprint? (node : String) (w : CallId) (id : SessionId) : Stage → Option Footprint
  | polling sub .looking s => some ⟨.looking ⟨node, sub, true⟩, ⟨s, [], 1⟩, true⟩
  | polling sub .approaching s =>
    some ⟨.approaching id (.poll ⟨node, sub, true⟩), ⟨s, [], 2⟩, true⟩
  | polling sub .waiting s => some ⟨.waiting id (.poll ⟨node, sub, true⟩), ⟨s, [w], 2⟩, true⟩
  | polling sub (.acting a) s =>
    some ⟨.acting id (.poll ⟨node, sub, true⟩) a, ⟨s, [w], 2⟩, true⟩
  | closing sub n .looking s =>
    some ⟨.removing sub (.notify ⟨node, sub, true⟩ n), ⟨s, [], 1⟩, true⟩
  | closing sub n .approaching s =>
    some ⟨.approaching id (.retire sub (.notify ⟨node, sub, true⟩ n)), ⟨s, [], 1⟩, false⟩
  | closing sub n .waiting s =>
    some ⟨.waiting id (.retire sub (.notify ⟨node, sub, true⟩ n)), ⟨s, [w], 1⟩, false⟩
  | _ => none

/-- The subscription that a stage is about. -/
def Stage.subscription? : Stage → Option String
  | polling sub .. | closing sub .. => some sub
  | _ => none

/-- What the caller of a task is sent because of an event of its call. -/
def Event.reply? (t : Task) : Event → Option (CallerId × Reply)
  | notice subscription n => some (t.caller, t.heard subscription n)
  | reply caller r _ => some (caller, r)
  | _ => none

def repliesTo (t : Task) (ev : List Event) : List (CallerId × Reply) :=
  ev.filterMap (Event.reply? t)

section Replies
variable {t : Task} {ev ev' : List Event}

@[simp] theorem repliesTo_nil : repliesTo t [] = [] := rfl

@[simp] theorem repliesTo_append : repliesTo t (ev ++ ev') = repliesTo t ev ++ repliesTo t ev' := by
  simp [repliesTo]

@[simp] theorem repliesTo_log_cons (e : Log.Entry) (s : Option Span) :
    repliesTo t (.log e s :: ev) = repliesTo t ev := rfl

@[simp] theorem repliesTo_traffic_cons (x : Traffic) :
    repliesTo t (.traffic x :: ev) = repliesTo t ev := rfl

@[simp] theorem repliesTo_reply_cons (c : CallerId) (r : Reply) (arrives : Bool) :
    repliesTo t (.reply c r arrives :: ev) = (c, r) :: repliesTo t ev := rfl

@[simp] theorem repliesTo_notice_cons (s : String) (n : Notice) :
    repliesTo t (.notice s n :: ev) = (t.caller, t.heard s n) :: repliesTo t ev := rfl

@[simp] theorem repliesTo_entries (l : List Log.Entry) :
    repliesTo t (l.map (Event.log ·)) = [] := by
  simp [repliesTo, List.filterMap_map, Function.comp_def, Event.reply?]

@[simp] theorem repliesTo_events (d : Demand) (a : Answer) : repliesTo t (d.events a) = [] := by
  cases h : d.record? a <;> simp [Demand.events, h]

end Replies

namespace Client
variable {c : Client} {id id' : SessionId} {w : CallId} {x y : Shared} {s : Session}

/-- The client with this record of a shared session. -/
def withShared (c : Client) (id : SessionId) (x : Shared) : Client :=
  { c with sessions := c.sessions.set id x }

@[simp] theorem withShared_peer : (c.withShared id x).peer = c.peer := rfl

@[simp] theorem withShared_subscriptions : (c.withShared id x).subscriptions = c.subscriptions :=
  rfl

@[simp] theorem withShared_withShared :
    (c.withShared id x).withShared id y = c.withShared id y := by
  simp [withShared]

theorem withShared_self (h : c.sessions[id]? = some x) : c.withShared id x = c := by
  obtain ⟨hl, rfl⟩ := List.getElem?_eq_some_iff.1 h
  simp [withShared]

theorem sessions_withShared (h : c.sessions[id]? = some x) :
    (c.withShared id y).sessions[id]? = some y := by
  obtain ⟨hl, -⟩ := List.getElem?_eq_some_iff.1 h
  simp [withShared, hl]

theorem sessions_withShared_ne (h : id' ≠ id) :
    (c.withShared id x).sessions[id']? = c.sessions[id']? := by
  simp [withShared, List.getElem?_set_ne h.symm]

theorem modify_eq (h : c.sessions[id]? = some x) (f : Shared → Shared) :
    c.modify id f = c.withShared id (f x) := by
  simp [modify, withShared, List.modify_eq_set_getElem?, h]

theorem put_eq (h : c.sessions[id]? = some x) :
    c.put id s = c.withShared id { x with session := s } :=
  modify_eq h _

theorem hold_eq (h : c.sessions[id]? = some x) :
    c.hold id = c.withShared id { x with holders := x.holders + 1 } :=
  modify_eq h _

theorem join_eq (h : c.sessions[id]? = some x) :
    c.join id w = c.withShared id { x with line := x.line ++ [w] } :=
  modify_eq h _

/-- A call that leaves a session which others still know of. -/
theorem put_leave_of_two {s' : Session} (h : c.sessions[id]? = some ⟨s, [w], 2⟩) :
    (c.put id s').leave id w = (c.withShared id ⟨s', [], 1⟩, []) := by
  rw [put_eq h, leave, modify_eq (sessions_withShared h), letGo]
  rw [withShared_withShared, sessions_withShared h]
  simp [modify_eq (sessions_withShared h)]

/-- The last one to leave a session that is closed already. -/
theorem put_leave_of_one {s' : Session} (h : c.sessions[id]? = some ⟨s, [w], 1⟩)
    (hc : s'.isOpen = false) :
    (c.put id s').leave id w = (c.withShared id ⟨s', [], 0⟩, []) := by
  rw [put_eq h, leave, modify_eq (sessions_withShared h), letGo]
  rw [withShared_withShared, sessions_withShared h]
  simp [modify_eq (sessions_withShared h), Session.abandon, hc]

theorem session?_eq (h : c.sessions[id]? = some x) : c.session? id = some x.session := by
  simp [session?, h]

theorem isTurn_eq (h : c.sessions[id]? = some x) : c.isTurn id w = (x.line.head? == some w) := by
  simp [isTurn, h]

end Client

/-- How a step of a call that follows a subscription agrees with its task's course: the call goes on
with the next footprint, or takes its entry out of the table, or is done. -/
inductive Agrees (c : Client) (w : CallId) (id : SessionId) (t : Task) (subscription : String)
    (listed : Bool) (next : Stage) (s : Step) : Prop
  | stays (f' : Footprint) (stage : next.footprint? t.node w id = some f')
      (status : s.status = .going f'.call) (client : s.client = c.withShared id f'.shared)
      (same : f'.isListed = listed)
  | unlists (f' : Footprint) (stage : next.footprint? t.node w id = some f')
      (status : s.status = .going f'.call)
      (client : s.client = { c.withShared id f'.shared with
        subscriptions := c.subscriptions.filter (·.1 != subscription) })
      (before : listed = true) (after : f'.isListed = false)
  | ends (session : Session) (stage : next = .ended) (status : s.status = .done .followed)
      (client : s.client = c.withShared id ⟨session, [], 0⟩) (closed : session.isOpen = false)
      (before : listed = false)

/-- A step agrees with a turn of the course, in what it does and in what it sends. -/
structure Matches (c : Client) (w : CallId) (id : SessionId) (t : Task) (subscription : String)
    (listed : Bool) (n : Turn) (s : Step) : Prop where
  agrees : Agrees c w id t subscription listed n.stage s
  replies : repliesTo t s.events = n.replies.map (t.caller, ·)
  traffic : traffic s.events = n.traffic

theorem Matches.after {c : Client} {w : CallId} {id : SessionId} {t : Task} {subscription : String}
    {listed : Bool} {n n' : Turn} {s : Step} (h : Matches c w id t subscription listed n s)
    {ev : List Event} (hr : repliesTo t ev = []) (hs : n'.stage = n.stage)
    (hn : n'.replies = n.replies) (ht : n'.traffic = SpaceGateway.traffic ev ++ n.traffic) :
    Matches c w id t subscription listed n' (s.after ev) := by
  refine ⟨?_, ?_, ?_⟩
  · rw [hs]
    cases h.agrees with
    | stays f' h₁ h₂ h₃ h₄ => exact .stays f' h₁ h₂ h₃ h₄
    | unlists f' h₁ h₂ h₃ h₄ h₅ => exact .unlists f' h₁ h₂ h₃ h₄ h₅
    | ends s' h₁ h₂ h₃ h₄ h₅ => exact .ends s' h₁ h₂ h₃ h₄ h₅
  · simp [Step.after, hr, hn, h.replies]
  · simp [Step.after, ht, h.traffic]

section Polls
variable {parser : Parser} {c : Client} {w : CallId} {id : SessionId} {t : Task}
variable {sub : String} {f : Footprint} {s s' : Session} {ev : List Event}

@[simp] theorem Session.traffic_parsed (r : Receiving) : traffic (Session.parsed r) = [] := by
  rcases r with _ | ⟨b, seen, e | m⟩ <;> rfl

@[simp] theorem Session.repliesTo_parsed (r : Receiving) :
    repliesTo t (Session.parsed r) = [] := by
  rcases r with _ | ⟨b, seen, e | m⟩ <;> rfl

@[simp] theorem Session.traffic_receive : traffic (s.receive parser).2 = [] := by
  unfold Session.receive
  split <;> simp

@[simp] theorem Session.repliesTo_receive : repliesTo t (s.receive parser).2 = [] := by
  unfold Session.receive
  split <;> simp

@[simp] theorem Session.traffic_resume (a : Act) (x : Answer) :
    traffic (s.resume parser a x).2 = [] := by
  unfold Session.resume
  split <;> simp

@[simp] theorem Session.repliesTo_resume (a : Act) (x : Answer) :
    repliesTo t (s.resume parser a x).2 = [] := by
  unfold Session.resume
  split <;> simp

@[simp] theorem Session.repliesTo_close : repliesTo t s.close.2 = [] := by
  unfold Session.close
  split <;> rfl

theorem Session.isOpen_close : s.close.1.isOpen = false := by
  unfold Session.close
  split <;> simp_all

theorem polled_status (space : String) (r : Except Error Message) :
    (Call.polled space ⟨t.node, sub, true⟩ r).1 =
      let n := Notice.ofResult (r.bind (Notice.classify t.node space sub))
      if n.isLast then .going (.removing sub (.notify ⟨t.node, sub, true⟩ n))
      else .going (.looking ⟨t.node, sub, true⟩) := by
  simp only [Call.polled, Call.noted, Call.notify]
  split <;> simp_all

theorem repliesTo_polled (space : String) (r : Except Error Message) :
    repliesTo t (Call.polled space ⟨t.node, sub, true⟩ r).2 =
      (Stage.noticed t space sub s r).replies.map (t.caller, ·) := by
  simp only [Call.polled, Call.noted, Call.notify, Stage.noticed]
  split <;> split <;> simp_all

theorem traffic_polled (space : String) (r : Except Error Message) :
    traffic (Call.polled space ⟨t.node, sub, true⟩ r).2 = [] := by
  simp only [Call.polled, Call.noted, Call.notify]
  split <;> split <;> simp_all

/-- What an act for a poll has brought. -/
def brought (r : Except Error (Option Message)) : Except Error Message :=
  r.bind fun m => m.elim (.error .peerClosed) .ok

theorem conclude_poll (hx : c.sessions[id]? = some ⟨s, [w], 2⟩)
    (r : Except Error (Option Message)) :
    Matches c w id t sub true (Stage.noticed t c.peer.space sub s' (brought r))
      (Call.conclude c w id (.poll ⟨t.node, sub, true⟩) s' r) := by
  have hc : Call.conclude c w id (.poll ⟨t.node, sub, true⟩) s' r =
      ⟨c.withShared id ⟨s', [], 1⟩, (Call.polled c.peer.space ⟨t.node, sub, true⟩ (brought r)).1,
        (Call.polled c.peer.space ⟨t.node, sub, true⟩ (brought r)).2⟩ := by
    simp [Call.conclude, Client.put_leave_of_two hx, Call.outcome, brought]
  have hs := @polled_status t sub c.peer.space (brought r)
  rw [hc]
  refine ⟨?_, repliesTo_polled .., ?_⟩
  · simp only [Stage.noticed]
    by_cases h : (Notice.ofResult ((brought r).bind
        (Notice.classify t.node c.peer.space sub))).isLast = true
    · simp only [h, if_true] at hs ⊢
      exact .stays _ rfl hs rfl rfl
    · simp only [h] at hs ⊢
      exact .stays _ rfl hs rfl rfl
  · simp only [Stage.noticed]
    split <;> exact traffic_polled ..

theorem proceed_poll (hx : c.sessions[id]? = some ⟨s, [w], 2⟩) (p : Session.Progress) :
    Matches c w id t sub true (Stage.progressed t c.peer.space sub p)
      (Call.proceed c w id (.poll ⟨t.node, sub, true⟩) p) := by
  cases p with
  | busy s' a => exact ⟨.stays _ rfl rfl (Client.put_eq hx) rfl, rfl, rfl⟩
  | sent s' => exact conclude_poll hx (.ok none)
  | finished s' => exact conclude_poll hx (.ok none)
  | received s' m => exact conclude_poll hx (.ok (some m))
  | failed s' e => exact conclude_poll hx (.error e)

/-- The end of a subscription's session, once the last notice is at hand. -/
theorem retire_step (hx : c.sessions[id]? = some ⟨s, [w], 1⟩) (n : Notice) (hn : n.isLast = true) :
    (Call.waiting id (.retire sub (.notify ⟨t.node, sub, true⟩ n))).step parser c w =
      ⟨c.withShared id ⟨s.close.1, [], 0⟩, .done .followed,
        s.close.2 ++ [.log (.subscriptionRemoved sub), .log (n.entry sub), .notice sub n]⟩ := by
  simp [Call.step, Client.session?_eq hx, Client.isTurn_eq hx, Call.embark, Call.conclude,
    Client.put_leave_of_one hx Session.isOpen_close, Call.outcome, Call.afterwards, Call.notify, hn,
    Step.after]

theorem looking_step (hx : c.sessions[id]? = some ⟨s, [], 1⟩) (hf : c.find? sub = some id) :
    (Call.looking ⟨t.node, sub, true⟩).step parser c w =
      ⟨c.withShared id ⟨s, [], 2⟩, .going (.approaching id (.poll ⟨t.node, sub, true⟩)), []⟩ := by
  simp [Call.step, hf, Client.hold_eq hx]

theorem waiting_step (hx : c.sessions[id]? = some ⟨s, [w], 2⟩) :
    (Call.waiting id (.poll ⟨t.node, sub, true⟩)).step parser c w =
      (Call.proceed c w id (.poll ⟨t.node, sub, true⟩) (s.receive parser).1).after
        (s.receive parser).2 := by
  simp [Call.step, Client.session?_eq hx, Client.isTurn_eq hx, Call.embark]

theorem removing_step (hx : c.sessions[id]? = some ⟨s, [], 1⟩) (hf : c.find? sub = some id)
    (n : Notice) :
    (Call.removing sub (.notify ⟨t.node, sub, true⟩ n)).step parser c w =
      ⟨{ c.withShared id ⟨s, [], 1⟩ with
          subscriptions := c.subscriptions.filter (·.1 != sub) },
        .going (.approaching id (.retire sub (.notify ⟨t.node, sub, true⟩ n))), []⟩ := by
  simp [Call.step, Client.unlink?, hf, Client.withShared_self hx]

variable {stage : Stage}

theorem progressed_traffic (space : String) (p : Session.Progress) :
    (Stage.progressed t space sub p).traffic = [] := by
  cases p <;> simp only [Stage.progressed, Stage.noticed] <;> split <;> rfl

theorem step_matches (codec : Codec) (hg : stage.footprint? t.node w id = some f)
    (hs : stage.subscription? = some sub) (hx : c.sessions[id]? = some f.shared)
    (hf : f.isListed = true → c.find? sub = some id) (hl : stage.Fits t) (free : Bool) :
    Matches c w id t sub f.isListed (stage.next codec c.peer t (.step free))
      (f.call.step codec.parser c w) := by
  cases stage with
  | queued | calling | ended => simp [Stage.subscription?] at hs
  | polling _ post s =>
    cases hs
    cases post with
    | looking =>
      cases hg
      rw [looking_step hx (hf rfl)]
      exact ⟨.stays _ rfl rfl rfl rfl, rfl, rfl⟩
    | approaching =>
      cases hg
      exact ⟨.stays _ rfl rfl (Client.join_eq hx) rfl, rfl, rfl⟩
    | waiting =>
      cases hg
      rw [waiting_step hx]
      exact (proceed_poll hx _).after (by simp) rfl rfl (by simp [Stage.next])
    | acting a =>
      cases hg
      exact ⟨.stays _ rfl rfl (Client.withShared_self hx).symm rfl, rfl, rfl⟩
  | closing _ n post s =>
    cases hs
    cases post with
    | looking =>
      cases hg
      rw [removing_step hx (hf rfl) n]
      exact ⟨.unlists _ rfl rfl rfl rfl rfl, rfl, rfl⟩
    | approaching =>
      cases hg
      exact ⟨.stays _ rfl rfl (Client.join_eq hx) rfl, rfl, rfl⟩
    | waiting =>
      cases hg
      rw [retire_step hx n hl.2]
      refine ⟨.ends _ rfl rfl rfl Session.isOpen_close rfl, ?_, ?_⟩
      · simp [Stage.next]
      · simp [Stage.next]
    | acting a => simp [Stage.footprint?] at hg

theorem resume_matches (codec : Codec) (hg : stage.footprint? t.node w id = some f)
    (hs : stage.subscription? = some sub) (hx : c.sessions[id]? = some f.shared) (a : Answer) :
    Matches c w id t sub f.isListed (stage.next codec c.peer t (.answer a))
      (f.call.resume codec.parser c w a) := by
  have idle {stage : Stage} (hg : stage.footprint? t.node w id = some f) :
      Matches c w id t sub f.isListed ⟨stage, [], []⟩ ⟨c, .going f.call, []⟩ :=
    ⟨.stays f hg rfl (Client.withShared_self hx).symm rfl, rfl, rfl⟩
  cases stage with
  | queued | calling | ended => simp [Stage.subscription?] at hs
  | polling _ post s =>
    cases hs
    cases post with
    | looking | approaching | waiting =>
      have h := idle hg
      cases hg
      exact h
    | acting act =>
      cases hg
      have hc : (Call.acting id (.poll ⟨t.node, sub, true⟩) act).resume codec.parser c w a =
          (Call.proceed c w id (.poll ⟨t.node, sub, true⟩) (s.resume codec.parser act a).1).after
            ((s.demand act).events a ++ (s.resume codec.parser act a).2) := by
        simp [Call.resume, Client.session?_eq hx]
      rw [hc]
      exact (proceed_poll hx _).after (by simp) rfl rfl (by simp [Stage.next, progressed_traffic])
  | closing _ n post s =>
    cases hs
    cases post with
    | looking | approaching | waiting =>
      have h := idle hg
      cases hg
      exact h
    | acting act => simp [Stage.footprint?] at hg

end Polls

section Calls
variable {parser : Parser} {c : Client} {w : CallId} {t : Task} {aim : Aim} {request : Bytes}

theorem exchanged_frame (p : Exchange.Progress) :
    Call.exchanged c aim request p =
      { Call.exchanged { peer := c.peer } aim request p with client := c } := by
  cases p with
  | busy | failed | connected | told => rfl
  | answered m =>
    cases aim with
    | confirm node tr =>
      simp only [Call.exchanged]
      cases m.confirmed node c.peer.space tr <;> rfl
    | _ => rfl
  | kept m s =>
    cases aim with
    | subscribe node tr =>
      simp only [Call.exchanged]
      cases m.confirmed node c.peer.space tr with
      | error e => rfl
      | ok m =>
        dsimp only
        cases m.subscription <;> rfl
    | _ => rfl

/-- An exchange leaves the client alone, and minds nothing of it but where it is. -/
theorem resume_exchanging (x : Exchange) (a : Answer) :
    (Call.exchanging aim request x).resume parser c w a =
      { (Call.exchanging aim request x).resume parser { peer := c.peer } 0 a with client := c } := by
  simp only [Call.resume]
  rw [exchanged_frame]
  rfl

theorem repliesTo_follow (purpose : Purpose) (p : Session.Progress) :
    repliesTo t (Exchange.follow purpose p).2 = [] := by
  cases p <;> simp only [Exchange.follow] <;> (try split) <;> simp

theorem repliesTo_exchange (purpose : Purpose) (x : Exchange) (peer : Peer) (a : Answer) :
    repliesTo t (x.resume parser peer purpose request a).2 = [] := by
  unfold Exchange.resume
  split
  · split
    · rfl
    · simp [repliesTo_follow]
  · rfl
  · simp [repliesTo_follow]
  · rfl

theorem repliesTo_exchanged (p : Exchange.Progress) :
    repliesTo t (Call.exchanged c aim request p).events = [] := by
  cases p with
  | busy | failed | connected | told => rfl
  | answered m =>
    simp only [Call.exchanged]
    split <;> (try split) <;> simp
  | kept m s =>
    simp only [Call.exchanged]
    split <;> (try split) <;> (try split) <;> simp

theorem repliesTo_resume_exchanging (x : Exchange) (a : Answer) :
    repliesTo t ((Call.exchanging aim request x).resume parser c w a).events = [] := by
  simp [Call.resume, Step.after, repliesTo_exchange, repliesTo_exchanged]

variable {m : Message} {sub : String} {s : Session}

theorem register_free (h : c.has sub = false) :
    (Call.registering m sub s).step parser c w =
      ⟨{ c with
          sessions := c.sessions ++ [⟨s, [], 1⟩]
          subscriptions := c.subscriptions ++ [(sub, c.sessions.length)] },
        .done (.message m), [.log (.subscribed c.peer.space sub)]⟩ := by
  simp [Call.step, Client.register, h, Client.share]

theorem register_taken (h : c.has sub = true) :
    (Call.registering m sub s).step parser c w =
      ⟨c, .done (.failed (.subscriptionTaken sub)), .log (.subscriptionTaken sub) :: s.close.2⟩ := by
  simp [Call.step, Client.register, h]

end Calls
end SpaceGateway
