import SpaceGateway.Proofs.Places
import SpaceGateway.Proofs.Stream
/-!
What a task and its connection say to each other, as the course of the task has it, and what the task
finds when it enters its subscription. Nothing else moves a task on.
-/
namespace SpaceGateway

/-- What is asked of a network and what it answers, in turn. -/
abbrev Dialogue := List (Demand × Answer)

/-- What an input adds to the dialogue of a task at a stage. An answer of the wrong kind adds nothing. -/
def Stage.said? (peer : Peer) (stage : Stage) : Input → Option (Demand × Answer)
  | .step _ => none
  | .answer a => (stage.demand? peer).bind fun d => if (d.record? a).isSome then some (d, a) else none

/-- Whether a task that is about to enter its subscription finds it free. -/
def Stage.found? : Stage → Input → Option Bool
  | calling (.registering ..), .step free => some free
  | _, _ => none

/-- Whether a stage takes note of an input: an answer that was asked for, or a step if none was. -/
def Stage.Heeds (peer : Peer) (stage : Stage) : Input → Prop
  | .step _ => stage.demand? peer = none
  | .answer a => ∃ d, stage.demand? peer = some d ∧ (d.record? a).isSome = true

/-- The inputs of a task, each with the stage at which it comes. -/
def stops (codec : Codec) (peer : Peer) (t : Task) : Stage → List Input → List (Stage × Input)
  | _, [] => []
  | stage, i :: rest => (stage, i) :: stops codec peer t (stage.next codec peer t i).stage rest

def dialogue (codec : Codec) (peer : Peer) (t : Task) (inputs : List Input) : Dialogue :=
  (stops codec peer t .queued inputs).filterMap fun (stage, i) => stage.said? peer i

def findings (codec : Codec) (peer : Peer) (t : Task) (inputs : List Input) : List Bool :=
  (stops codec peer t .queued inputs).filterMap fun (stage, i) => stage.found? i

section Stops
variable {codec : Codec} {peer : Peer} {t : Task} {stage : Stage} {i : Input} {a : Answer}
variable {inputs : List Input}

theorem stops_snoc (c : Turn) :
    stops codec peer t c.stage (inputs ++ [i]) = stops codec peer t c.stage inputs ++
      [((inputs.foldl (fun c i => c.followedBy (c.stage.next codec peer t i)) c).stage, i)] := by
  induction inputs generalizing c with
  | nil => rfl
  | cons j rest ih => exact congrArg (_ :: ·) (ih (c.followedBy (c.stage.next codec peer t j)))

theorem dialogue_snoc : dialogue codec peer t (inputs ++ [i]) =
    dialogue codec peer t inputs ++ ((course codec peer t inputs).stage.said? peer i).toList := by
  unfold dialogue
  rw [stops_snoc ⟨.queued, [], []⟩, List.filterMap_append]
  rfl

theorem findings_snoc : findings codec peer t (inputs ++ [i]) =
    findings codec peer t inputs ++ ((course codec peer t inputs).stage.found? i).toList := by
  unfold findings
  rw [stops_snoc ⟨.queued, [], []⟩, List.filterMap_append]
  rfl

theorem said?_answer {d : Demand} (hd : stage.demand? peer = some d)
    (ha : (d.record? a).isSome = true) : stage.said? peer (.answer a) = some (d, a) := by
  simp [Stage.said?, hd, ha]

theorem resume_unfit {parser : Parser} {s : Session} {act : Act}
    (h : (s.demand act).record? a = none) : s.resume parser act a = (.busy s act, []) := by
  cases act <;> cases a <;> first | rfl | cases h

theorem exchange_unfit {parser : Parser} {purpose : Purpose} {request : Bytes} {x : Exchange}
    (h : (x.demand peer).record? a = none) :
    x.resume parser peer purpose request a = (.busy x, []) := by
  cases x with
  | connecting => cases a <;> first | rfl | cases h
  | acting s act => simp only [Exchange.resume, resume_unfit h, Exchange.follow, List.append_nil]

theorem exchanging_unheeded {aim : Aim} {request : Bytes} {x : Exchange}
    (h : (x.demand peer).record? a = none) :
    Stage.next codec peer t (.calling (.exchanging aim request x)) (.answer a) =
      ⟨.calling (.exchanging aim request x), [], []⟩ := by
  rw [next_exchanging, exchange_unfit h]
  simp [Demand.events, h, Call.exchanged, Step.after, Stage.settled]

theorem polling_unheeded {subscription : String} {act : Act} {s : Session}
    (h : (s.demand act).record? a = none) :
    Stage.next codec peer t (.polling subscription (.acting act) s) (.answer a) =
      ⟨.polling subscription (.acting act) s, [], []⟩ := by
  simp [Stage.next, resume_unfit h, h, Stage.progressed]

theorem next_unheeded (h : ¬ stage.Heeds peer i) :
    stage.next codec peer t i = ⟨stage, [], []⟩ := by
  cases i with
  | step free =>
    cases stage with
    | calling call => cases call <;> first | rfl | exact (h rfl).elim
    | polling sub post s => cases post <;> first | rfl | exact (h rfl).elim
    | closing sub n post s => cases post <;> first | rfl | exact (h rfl).elim
    | queued | ended => exact (h rfl).elim
  | answer a =>
    have hunfit (d : Demand) (hd : stage.demand? peer = some d) : d.record? a = none := by
      by_contra hr
      exact h ⟨d, hd, Option.isSome_iff_ne_none.2 hr⟩
    cases stage with
    | queued | ended => rfl
    | closing sub n post s => cases post <;> rfl
    | calling call =>
      cases call with
      | exchanging aim request x => exact exchanging_unheeded (hunfit _ rfl)
      | _ => rfl
    | polling sub post s =>
      cases post with
      | acting act => exact polling_unheeded (hunfit _ rfl)
      | _ => rfl

/-- What a stage does not heed is no part of the dialogue. -/
theorem said?_unheeded (h : ¬ stage.Heeds peer i) : stage.said? peer i = none := by
  cases i with
  | step => rfl
  | answer a =>
    cases hd : stage.demand? peer with
    | none => simp [Stage.said?, hd]
    | some d =>
      have hr : ¬ (d.record? a).isSome = true := fun hr => h ⟨d, hd, hr⟩
      simp [Stage.said?, hd, hr]

theorem found?_unheeded (h : ¬ stage.Heeds peer i) : stage.found? i = none := by
  unfold Stage.found?
  split
  · exact (h rfl).elim
  · rfl

/-- Whether a task has come past the point where it enters its subscription. -/
def Stage.IsPast : Stage → Prop
  | polling .. | closing .. | ended => True
  | _ => False

theorem noticed_past {space subscription : String} (s : Session) (r : Except Error Message) :
    (Stage.noticed t space subscription s r).stage.IsPast := by
  simp only [Stage.noticed]
  split <;> trivial

theorem Stage.IsPast.next (h : stage.IsPast) (i : Input) :
    (stage.next codec peer t i).stage.IsPast := by
  have hprogress (space subscription : String) (p : Session.Progress) :
      (Stage.progressed t space subscription p).stage.IsPast := by
    cases p with
    | busy => trivial
    | sent | finished | received | failed => exact noticed_past _ _
  cases stage with
  | queued | calling => exact h.elim
  | ended => trivial
  | polling sub post s => cases i <;> cases post <;> first | trivial | exact hprogress _ _ _
  | closing sub n post s => cases i <;> cases post <;> trivial

theorem found?_past (h : stage.IsPast) (i : Input) : stage.found? i = none := by
  cases stage with
  | queued | calling => exact h.elim
  | polling | closing | ended => rfl

theorem next_found {b : Bool} (h : stage.found? i = some b) :
    (stage.next codec peer t i).stage.IsPast := by
  unfold Stage.found? at h
  split at h
  · rename_i free
    cases free <;> trivial
  · cases h

/-- A task enters its subscription at most once. -/
theorem findings_once (inputs : List Input) : findings codec peer t inputs = [] ∨
    (course codec peer t inputs).stage.IsPast ∧ ∃ b, findings codec peer t inputs = [b] := by
  induction inputs using List.reverseRecOn with
  | nil => exact .inl rfl
  | append_singleton inputs i ih =>
    rw [course_snoc, findings_snoc]
    rcases ih with hnone | ⟨hpast, b, hone⟩
    · cases hfound : (course codec peer t inputs).stage.found? i with
      | none => exact .inl (by rw [hnone]; rfl)
      | some b => exact .inr ⟨next_found hfound, b, by rw [hnone]; rfl⟩
    · exact .inr ⟨hpast.next i, b, by rw [hone, found?_past hpast]; rfl⟩

end Stops

/-- What is seen on the network but for connections that are given up. -/
def exchanges (l : List Traffic) : List Traffic := l.filter fun x => x.closing?.isNone

/-- The record of a dialogue. -/
def records (ds : Dialogue) : List Traffic := ds.filterMap fun (d, a) => d.record? a

section Records
variable {codec : Codec} {peer : Peer} {t : Task} {c n : Turn} {s : Session} {i : Input}
variable {a b : List Traffic} {inputs : List Input}

@[simp] theorem exchanges_append : exchanges (a ++ b) = exchanges a ++ exchanges b :=
  List.filter_append ..

theorem exchanges_close : exchanges (traffic s.close.2) = [] := by
  unfold Session.close
  split <;> rfl

theorem exchanges_record (d : Demand) (x : Answer) :
    exchanges (d.record? x).toList = (d.record? x).toList := by
  cases d <;> cases x <;> rfl

theorem Task.Exchanged.exchanges {request : Bytes} {k : ConnId} {pre : List Traffic}
    (h : t.Exchanged request k pre n) :
    SpaceGateway.exchanges n.traffic = SpaceGateway.exchanges pre := by
  cases h with
  | acting | registering => rfl
  | ended => exact exchanges_append.trans (List.append_nil _)

theorem next_step_exchanges (h : c.stage.Fits t) (free : Bool) :
    exchanges (c.stage.next codec peer t (.step free)).traffic = [] := by
  cases hc : c.stage with
  | queued =>
    simp only [Stage.next]
    split <;> rfl
  | ended => rfl
  | polling sub post s =>
    cases post with
    | waiting => simp only [Stage.next, progressed_traffic]; rfl
    | _ => rfl
  | closing sub x post s =>
    cases post with
    | waiting => exact exchanges_close
    | _ => rfl
  | calling call =>
    rw [hc] at h
    cases call with
    | registering m sub s =>
      cases free with
      | true => rfl
      | false => exact exchanges_close
    | exchanging => rfl
    | _ => exact h.elim

theorem next_answer_exchanges (h : c.Sound t) {d : Demand} {x : Answer}
    (hd : c.stage.demand? peer = some d) :
    exchanges (c.stage.next codec peer t (.answer x)).traffic = (d.record? x).toList := by
  have hfits := h.fits
  cases hc : c.stage with
  | queued | ended => rw [hc] at hd; cases hd
  | closing => rw [hc] at hd; cases hd
  | polling sub post s =>
    rw [hc] at hd
    cases post with
    | acting act => cases hd; exact exchanges_record _ _
    | _ => cases hd
  | calling call =>
    rw [hc] at hd hfits
    cases call with
    | exchanging aim request y =>
      cases hd
      cases hfits
      cases y with
      | acting s act =>
        obtain ⟨ho, -⟩ := h.connected.session (s := s) (by rw [hc]; rfl)
        rw [(exchanged_acting request ho act x).exchanges]
        exact exchanges_record _ _
      | connecting =>
        cases x with
        | connected k => exact (exchanged_connected request k).exchanges
        | failed | accepted | done | delivered => rfl
    | _ => cases hd

/-- What is seen of a task's connection, until it is given up, is the record of their dialogue. -/
theorem exchanges_course :
    exchanges (course codec peer t inputs).traffic = records (dialogue codec peer t inputs) := by
  induction inputs using List.reverseRecOn with
  | nil => rfl
  | append_singleton inputs i ih =>
    have hsound := @course_sound codec peer t inputs
    rw [course_snoc, dialogue_snoc]
    simp only [Turn.followedBy, exchanges_append, records, List.filterMap_append, ih]
    congr 1
    by_cases hh : (course codec peer t inputs).stage.Heeds peer i
    · cases i with
      | step free => exact next_step_exchanges hsound.fits free
      | answer x =>
        obtain ⟨d, hd, hr⟩ := hh
        obtain ⟨record, hrecord⟩ := Option.isSome_iff_exists.1 hr
        rw [next_answer_exchanges hsound hd, said?_answer hd hr]
        simp [hrecord]
    · rw [next_unheeded hh, said?_unheeded hh]
      rfl

end Records

namespace Ledger

/-- What a ticket's task and its connection have said to each other. -/
def dialogue (l : Ledger) (k : Ticket) : Dialogue :=
  match l.task? k with
  | some t =>
    (l.gateway.client? t.server).elim [] fun c =>
      SpaceGateway.dialogue l.gateway.codec c.peer t (l.inputs k)
  | none => []

/-- Whether a ticket's task has found its subscription free when it was about to enter it. -/
def findings (l : Ledger) (k : Ticket) : List Bool :=
  match l.task? k with
  | some t =>
    (l.gateway.client? t.server).elim [] fun c =>
      SpaceGateway.findings l.gateway.codec c.peer t (l.inputs k)
  | none => []

section Tickets
variable {l : Ledger} {k : Ticket} {t : Task} {c : Client} {s : Server} {codec : Codec}
variable {config : Config}

theorem dialogue_eq (ht : l.task? k = some t) (hc : l.gateway.client? t.server = some c) :
    l.dialogue k = SpaceGateway.dialogue l.gateway.codec c.peer t (l.inputs k) := by
  simp [dialogue, ht, hc]

theorem findings_eq (ht : l.task? k = some t) (hc : l.gateway.client? t.server = some c) :
    l.findings k = SpaceGateway.findings l.gateway.codec c.peer t (l.inputs k) := by
  simp [findings, ht, hc]

/-- What was seen for a ticket is the record of its dialogue. -/
theorem Sound.exchanges_eq (h : l.Sound) (ht : l.task? k = some t) :
    exchanges (l.trafficOf k) = records (l.dialogue k) := by
  obtain ⟨c, hc⟩ := h.owned.known k t ht
  rw [h.accounts.seen k t ht, course_eq ht hc, dialogue_eq ht hc, exchanges_course]

/-- A client goes to its server. -/
theorem Placed.peer_of_server (h : l.Placed codec config) {S : ServerId}
    (hs : l.gateway.registry.servers[S]? = some s) :
    l.gateway.client? S = some s.client ∧
      s.client.peer = s.info.peer config.receiveBuffer.toNat := by
  refine ⟨by simp [Gateway.client?, hs], h.peer s.place ?_⟩
  refine List.mem_of_getElem? (i := S) ?_
  simp [Registry.places, hs]

end Tickets
end Ledger
end SpaceGateway
