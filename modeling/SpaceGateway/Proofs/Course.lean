import Mathlib.Data.List.Induction
import SpaceGateway.Gateway
/-!
The course of a task as the task itself sees it. It is moved on by the answers of its connection and
by whether the subscription it is about to enter is free, and by nothing else.
-/
namespace SpaceGateway

def Event.traffic? : Event → Option Traffic
  | traffic t => some t
  | _ => none

/-- What was seen on the network. -/
def traffic (ev : List Event) : List Traffic := ev.filterMap Event.traffic?

def Traffic.opening? : Traffic → Option ConnId
  | opened c _ => some c
  | _ => none

def Traffic.closing? : Traffic → Option ConnId
  | closed c => some c
  | _ => none

/-- The connections that were opened. -/
def openings (l : List Traffic) : List ConnId := l.filterMap Traffic.opening?

/-- The connections that were given up. -/
def closings (l : List Traffic) : List ConnId := l.filterMap Traffic.closing?

/-- What moves a task on: a step of its own, which may find the subscription free that it is about
to enter, or an answer of its connection. -/
inductive Input
  | step (free : Bool)
  | answer (a : Answer)

/-- How far a poll has come with the session of its subscription. -/
inductive Post
  | looking | approaching | waiting
  | acting (a : Act)

inductive Stage
  | queued
  | calling (c : Call)
  /-- Waits for notices of its subscription. -/
  | polling (subscription : String) (post : Post) (s : Session)
  /-- Has received the last notice, and ends the subscription. -/
  | closing (subscription : String) (n : Notice) (post : Post) (s : Session)
  | ended

/-- What a task has come to, and what it has sent on the way. -/
structure Turn where
  stage : Stage
  replies : List Reply := []
  traffic : List Traffic := []

/-- Goes on with what came next. -/
def Turn.followedBy (c n : Turn) : Turn :=
  ⟨n.stage, c.replies ++ n.replies, c.traffic ++ n.traffic⟩

/-- The reply that follows the end of a call. -/
def Task.told (t : Task) (r : CallResult) : List Reply := (t.conclude r).reply.toList

namespace Stage

/-- After a step of the call that comes before the notices. -/
def settled (t : Task) (s : Step) : Turn :=
  match s.status with
  | .going c => ⟨calling c, [], traffic s.events⟩
  | .done r => ⟨ended, t.told r, traffic s.events⟩

/-- After something was received for a subscription. -/
def noticed (t : Task) (space subscription : String) (s : Session) (r : Except Error Message) :
    Turn :=
  let n := Notice.ofResult (r.bind (Notice.classify t.node space subscription))
  if n.isLast then ⟨closing subscription n .looking s, [], []⟩
  else ⟨polling subscription .looking s, [t.heard subscription n], []⟩

def progressed (t : Task) (space subscription : String) : Session.Progress → Turn
  | .busy s a => ⟨polling subscription (.acting a) s, [], []⟩
  | .received s m => noticed t space subscription s (.ok m)
  | .failed s e => noticed t space subscription s (.error e)
  | .sent s | .finished s => noticed t space subscription s (.error .peerClosed)

def next (codec : Codec) (peer : Peer) (t : Task) : Stage → Input → Turn
  | queued, .step _ =>
    match Call.ofCommand codec peer t.command with
    | .ok c => ⟨calling c, [], []⟩
    | .error f => ⟨ended, t.told (.failed (.codec f)), []⟩
  | calling (.registering m subscription s), .step free =>
    if free then ⟨polling subscription .looking s, t.told (.message m), []⟩
    else ⟨ended, t.told (.failed (.subscriptionTaken subscription)), traffic s.close.2⟩
  | calling c, .answer a => settled t (c.resume codec.parser { peer } 0 a)
  | polling subscription .looking s, .step _ => ⟨polling subscription .approaching s, [], []⟩
  | polling subscription .approaching s, .step _ => ⟨polling subscription .waiting s, [], []⟩
  | polling subscription .waiting s, .step _ =>
    progressed t peer.space subscription (s.receive codec.parser).1
  | polling subscription (.acting act) s, .answer a =>
    { progressed t peer.space subscription (s.resume codec.parser act a).1 with
      traffic := ((s.demand act).record? a).toList }
  | closing subscription n .looking s, .step _ => ⟨closing subscription n .approaching s, [], []⟩
  | closing subscription n .approaching s, .step _ => ⟨closing subscription n .waiting s, [], []⟩
  | closing subscription n .waiting s, .step _ =>
    ⟨ended, [t.heard subscription n], traffic s.close.2⟩
  | stage, _ => ⟨stage, [], []⟩

end Stage

/-- A task's course, from the queue on. -/
def course (codec : Codec) (peer : Peer) (t : Task) (inputs : List Input) : Turn :=
  inputs.foldl (fun c i => c.followedBy (c.stage.next codec peer t i)) ⟨.queued, [], []⟩

/-- What the exchange of a task is for. -/
def Task.aim (t : Task) : Aim :=
  match t.operation with
  | .subscribe .. => .subscribe t.node t.operation.transaction
  | .unsubscribe _ => .tell
  | _ => .confirm t.node t.operation.transaction

def Task.request (t : Task) (space : String) : Request :=
  ⟨space, t.node, t.transactionId, t.operation⟩

def Operation.IsSubscribe : Operation → Prop
  | subscribe .. => True
  | _ => False

/-- Whether a task can come to a stage. -/
def Stage.Fits (t : Task) : Stage → Prop
  | calling (.exchanging aim _ _) => aim = t.aim
  | calling (.registering m subscription _) =>
    t.operation.IsSubscribe ∧ m.subscription = some subscription
  | calling _ => False
  | polling .. => t.operation.IsSubscribe
  | closing _ n .. => t.operation.IsSubscribe ∧ n.isLast = true
  | queued | ended => True

section Basics
variable {codec : Codec} {peer : Peer} {t : Task} {ev ev' : List Event} {a b : List Traffic}

@[simp] theorem traffic_nil : traffic [] = [] := rfl

@[simp] theorem traffic_append : traffic (ev ++ ev') = traffic ev ++ traffic ev' := by
  simp [traffic]

@[simp] theorem traffic_log_cons (e : Log.Entry) (s : Option Span) :
    traffic (.log e s :: ev) = traffic ev := rfl

@[simp] theorem traffic_notice_cons (s : String) (n : Notice) :
    traffic (.notice s n :: ev) = traffic ev := rfl

@[simp] theorem traffic_reply_cons (c : CallerId) (r : Reply) (arrives : Bool) :
    traffic (.reply c r arrives :: ev) = traffic ev := rfl

@[simp] theorem traffic_cons (x : Traffic) : traffic (.traffic x :: ev) = x :: traffic ev := rfl

@[simp] theorem traffic_entries (l : List Log.Entry) :
    traffic (l.map (Event.log ·)) = [] := by
  simp [traffic, List.filterMap_map, Function.comp_def, Event.traffic?]

@[simp] theorem openings_append : openings (a ++ b) = openings a ++ openings b := by
  simp [openings]

@[simp] theorem closings_append : closings (a ++ b) = closings a ++ closings b := by
  simp [closings]

@[simp] theorem traffic_events (d : Demand) (x : Answer) :
    traffic (d.events x) = (d.record? x).toList := by
  cases h : d.record? x <;> simp [Demand.events, h]

@[simp] theorem course_nil : course codec peer t [] = ⟨.queued, [], []⟩ := rfl

@[simp] theorem course_snoc (inputs : List Input) (i : Input) :
    course codec peer t (inputs ++ [i]) =
      (course codec peer t inputs).followedBy
        ((course codec peer t inputs).stage.next codec peer t i) := by
  simp [course]

end Basics

section Fits
variable {codec : Codec} {peer : Peer} {t : Task} {c : Client}

theorem Call.ofCommand_command :
    Call.ofCommand codec peer t.command =
      (codec.build (t.request peer.space)).map (Call.exchanging t.aim · .connecting) := by
  obtain ⟨_, _, node, _, i, o⟩ := t
  cases o <;> rfl

theorem Message.confirmed_ok {m m' : Message} {node space : String} {tr : Transaction}
    (h : m.confirmed node space tr = .ok m') : m' = m := by
  simp only [confirmed, accepted, bind, Except.bind] at h
  split at h
  · cases h
  · split at h
    · exact (Except.ok.inj h).symm
    · cases h

/-- How a call goes on after an exchange. -/
theorem Call.exchanged_going {aim : Aim} {request : Bytes} {p : Exchange.Progress} {call : Call}
    (h : (Call.exchanged c aim request p).status = .going call) :
    (∃ x, p = .busy x ∧ call = .exchanging aim request x) ∨
      ∃ node tr m subscription s, aim = .subscribe node tr ∧ p = .kept m s ∧
        m.confirmed node c.peer.space tr = .ok m ∧ m.subscription = some subscription ∧
        call = .registering m subscription s := by
  cases p with
  | busy x =>
    cases h
    exact .inl ⟨x, rfl, rfl⟩
  | failed | connected | told => cases h
  | answered m =>
    simp only [Call.exchanged] at h
    split at h
    · split at h <;> cases h
    · cases h
  | kept m s =>
    right
    simp only [Call.exchanged] at h
    split at h
    · rename_i node tr
      split at h
      · cases h
      · rename_i m' hm
        split at h
        · cases h
        · rename_i sub hsub
          cases h
          obtain rfl := Message.confirmed_ok hm
          exact ⟨node, tr, _, sub, s, rfl, rfl, hm, hsub, rfl⟩
    · cases h

theorem Stage.noticed_fits {space sub : String} {s : Session} {r : Except Error Message}
    (h : t.operation.IsSubscribe) : (Stage.noticed t space sub s r).stage.Fits t := by
  simp only [Stage.noticed]
  split
  · rename_i hl
    exact ⟨h, hl⟩
  · exact h

theorem Stage.progressed_fits {space sub : String} {p : Session.Progress}
    (h : t.operation.IsSubscribe) : (Stage.progressed t space sub p).stage.Fits t := by
  cases p with
  | busy => exact h
  | sent | finished | received | failed => exact Stage.noticed_fits h

theorem Task.isSubscribe_of_aim {node : String} {tr : Transaction}
    (h : t.aim = .subscribe node tr) : t.operation.IsSubscribe := by
  unfold Task.aim at h
  split at h <;> simp_all [Operation.IsSubscribe]

theorem Stage.next_fits {stage : Stage} (h : stage.Fits t) (i : Input) :
    (stage.next codec peer t i).stage.Fits t := by
  cases stage with
  | queued =>
    cases i with
    | answer => exact h
    | step =>
      simp only [Stage.next, Call.ofCommand_command]
      cases codec.build (t.request peer.space) <;> simp [Except.map, Stage.Fits]
  | ended => exact h
  | polling sub post s =>
    cases i <;> cases post <;> first | exact h | exact Stage.progressed_fits h
  | closing sub n post s =>
    cases i <;> cases post <;> first | exact h | trivial
  | calling call =>
    cases call with
    | exchanging aim request x =>
      cases i with
      | step => exact h
      | answer a =>
        simp only [Stage.next, Call.resume, Stage.settled]
        split
        · rename_i call hg
          rcases Call.exchanged_going hg with ⟨x', -, rfl⟩ | ⟨_, _, m, sub, s, ha, -, -, hs, rfl⟩
          · exact h
          · cases h
            exact ⟨Task.isSubscribe_of_aim ha, hs⟩
        · trivial
    | registering m sub s =>
      cases i with
      | step free =>
        cases free
        · trivial
        · exact h.1
      | answer => exact h
    | _ => exact h.elim

end Fits

end SpaceGateway
