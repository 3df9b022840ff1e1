import SpaceGateway.Proofs.Polling
/-!
A poll for all notices of a subscription. It is one poll for the next notice after the other, until one is
the last. With a parser that advances, each notice but the last takes up some of the bytes that the
connection delivers, so when the connection ends the poll does, too. A parser that does not can make a
poll receive one message for ever.
-/
namespace SpaceGateway

/-- The notices that pollers receive. -/
def notices (ev : List Event) : List Notice :=
  ev.filterMap fun
    | .notice _ n => some n
    | _ => none

section Notices
variable {ev ev' : List Event} {c : Client} {s : Session} {parser : Parser}

@[simp] theorem notices_nil : notices [] = [] := rfl

@[simp] theorem notices_append : notices (ev ++ ev') = notices ev ++ notices ev' :=
  List.filterMap_append

@[simp] theorem notices_log_cons (e : Log.Entry) (span : Option Span) :
    notices (.log e span :: ev) = notices ev := rfl

@[simp] theorem notices_entries (es : List Log.Entry) : notices (es.map (Event.log ·)) = [] := by
  induction es with
  | nil => rfl
  | cons e es ih => exact ih

@[simp] theorem notices_events (d : Demand) (a : Answer) : notices (d.events a) = [] := by
  unfold Demand.events
  cases d.record? a <;> rfl

@[simp] theorem notices_parsed (r : Receiving) : notices (Session.parsed r) = [] := by
  unfold Session.parsed
  split <;> rfl

@[simp] theorem notices_receive : notices (s.receive parser).2 = [] := by
  unfold Session.receive
  split
  · exact notices_parsed _
  · rfl

@[simp] theorem notices_resume (a : Act) (x : Answer) : notices (s.resume parser a x).2 = [] := by
  unfold Session.resume
  split <;> first | rfl | exact notices_parsed _

@[simp] theorem notices_close : notices s.close.2 = [] := by
  unfold Session.close
  split <;> rfl

@[simp] theorem notices_abandon : notices s.abandon.2 = [] := by
  unfold Session.abandon
  split <;> rfl

@[simp] theorem notices_leave (id : SessionId) (k : CallId) : notices (c.leave id k).2 = [] := by
  unfold Client.leave Client.letGo
  split
  · rfl
  · split <;> simp

end Notices

/-- The poll for all notices that goes on as this one does. -/
def Poll.always (p : Poll) : Poll := { p with endless := true }

def After.always : After → After
  | .notify p n => .notify p.always n
  | after => after

def Errand.always : Errand → Errand
  | .poll p => .poll p.always
  | .retire subscription after => .retire subscription after.always
  | e => e

def Call.always : Call → Call
  | .looking p => .looking p.always
  | .removing subscription after => .removing subscription after.always
  | .approaching id e => .approaching id e.always
  | .waiting id e => .waiting id e.always
  | .acting id e a => .acting id e.always a
  | call => call

/-- How a poll for all notices stands, and what it has told, when the one for the next notice stands so.
When that is done it starts anew, unless the notice is the last one. -/
inductive CallStatus.Renews (p : Poll) : CallStatus → List Notice → CallStatus → Prop
  | going {call : Call} (of : call.OfPoll p) : Renews p (.going call) [] (.going call.always)
  | next {n : Notice} (goesOn : n.isLast = false) :
    Renews p (.done (.notice n)) [n] (.going (.looking p.always))
  | last {n : Notice} (last : n.isLast = true) : Renews p (.done (.notice n)) [n] (.done .followed)

/-- A step of a poll for all notices, by the step of the one for the next notice. -/
structure Step.Renews (p : Poll) (x y : Step) : Prop where
  client : y.client = x.client
  status : x.status.Renews p (notices y.events) y.status

/-- How a poll for all notices stands that has received these. -/
inductive Poll.Heard (p : Poll) : List Notice → CallStatus → Prop
  | going {heard : List Notice} {call : Call} (goesOn : ∀ n ∈ heard, n.isLast = false)
    (of : call.OfPoll p) : Heard p heard (.going call.always)
  | ended {heard : List Notice} {n : Notice} (goesOn : ∀ n ∈ heard, n.isLast = false)
    (last : n.isLast = true) : Heard p (heard ++ [n]) (.done .followed)

section Renewal
variable {parser : Parser} {p : Poll} {c : Client} {k : CallId} {id : SessionId} {s : Session}
variable {e : Errand} {call : Call} {n : Notice} {st st' : CallStatus} {heard ns : List Notice}

theorem renews_notify (hp : p.endless = false) :
    (Call.notify p n).1.Renews p (notices (Call.notify p.always n).2) (Call.notify p.always n).1 := by
  rw [notify_done hp]
  unfold Call.notify Poll.always
  cases hlast : n.isLast with
  | true => exact .last hlast
  | false => exact .next hlast

theorem renews_noted (hp : p.endless = false) :
    (Call.noted p n).1.Renews p (notices (Call.noted p.always n).2) (Call.noted p.always n).1 := by
  unfold Call.noted
  cases n.isLast with
  | true => exact .going (.removing n)
  | false => exact renews_notify hp

theorem renews_polled (hp : p.endless = false) (space : String) (r : Except Error Message) :
    (Call.polled space p r).1.Renews p (notices (Call.polled space p.always r).2)
      (Call.polled space p.always r).1 := by
  have hsaid : notices (Call.polled space p.always r).2 =
      notices (Call.noted p.always (p.told space r)).2 := by
    have hresult : r.bind (Notice.classify p.always.node space p.always.subscription) =
        r.bind (Notice.classify p.node space p.subscription) := rfl
    simp only [Call.polled, Poll.told, notices_append, hresult]
    generalize r.bind (Notice.classify p.node space p.subscription) = x
    cases x <;> simp
  rw [hsaid]
  exact renews_noted hp

theorem renews_conclude (r : Except Error (Option Message))
    (h : ∀ space, (Call.outcome space e r).1.Renews p (notices (Call.outcome space e.always r).2)
      (Call.outcome space e.always r).1) :
    (Call.conclude c k id e s r).Renews p (Call.conclude c k id e.always s r) := by
  refine ⟨rfl, ?_⟩
  simp only [Call.conclude, notices_append, notices_leave, List.nil_append]
  exact h _

theorem renews_proceed (hp : p.endless = false) (q : Session.Progress) :
    (Call.proceed c k id (.poll p) q).Renews p (Call.proceed c k id (.poll p.always) q) := by
  have hconclude (s : Session) (r : Except Error (Option Message)) :
      (Call.conclude c k id (.poll p) s r).Renews p (Call.conclude c k id (.poll p.always) s r) :=
    renews_conclude r fun space => renews_polled hp space _
  cases q with
  | busy s a => exact ⟨rfl, .going (.acting id a)⟩
  | sent s => exact hconclude s (.ok none)
  | finished s => exact hconclude s (.ok none)
  | received s m => exact hconclude s (.ok (some m))
  | failed s e => exact hconclude s (.error e)

theorem Step.Renews.after {x y : Step} (h : x.Renews p y) {ev ev' : List Event}
    (hev : notices ev' = []) : (x.after ev).Renews p (y.after ev') := by
  refine ⟨h.client, ?_⟩
  simpa [Step.after, hev] using h.status

theorem Call.OfPoll.renews (h : call.OfPoll p) :
    Step.Renews p ⟨c, .going call, []⟩ ⟨c, .going call.always, []⟩ :=
  ⟨rfl, .going h⟩

/-- A poll for all notices makes the steps of a poll for the next one. -/
theorem Call.OfPoll.renews_step (hp : p.endless = false) (h : call.OfPoll p) :
    (call.step parser c k).Renews p (call.always.step parser c k) := by
  cases h with
  | looking =>
    have hfind : c.find? p.always.subscription = c.find? p.subscription := rfl
    simp only [Call.always, Call.step, hfind]
    cases c.find? p.subscription with
    | some id => exact ⟨rfl, .going (.approaching id)⟩
    | none => exact ⟨rfl, renews_notify hp⟩
  | approaching id => exact ⟨rfl, .going (.waiting id)⟩
  | retiring id n => exact ⟨rfl, .going (.queueing id n)⟩
  | removing n =>
    simp only [Call.always, Call.step]
    cases c.unlink? p.subscription with
    | some u => exact ⟨rfl, .going (.retiring u.1 n)⟩
    | none => exact ⟨rfl, renews_notify hp⟩
  | waiting id =>
    simp only [Call.always, Call.step]
    cases c.session? id with
    | none => exact (Call.OfPoll.waiting id).renews
    | some s =>
      cases c.isTurn id k with
      | false => exact (Call.OfPoll.waiting id).renews
      | true => exact (renews_proceed hp _).after notices_receive
  | queueing id n =>
    simp only [Call.always, Call.step]
    cases c.session? id with
    | none => exact (Call.OfPoll.queueing id n).renews
    | some s =>
      cases c.isTurn id k with
      | false => exact (Call.OfPoll.queueing id n).renews
      | true =>
        have hclose : notices (s.close.2 ++ [.log (.subscriptionRemoved p.subscription)]) = [] := by
          simp
        exact (renews_conclude _ fun _ => renews_notify hp).after hclose
  | acting id a => exact (Call.OfPoll.acting id a).renews

/-- So it does with an answer. -/
theorem Call.OfPoll.renews_resume (hp : p.endless = false) (h : call.OfPoll p) (a : Answer) :
    (call.resume parser c k a).Renews p (call.always.resume parser c k a) := by
  cases h with
  | acting id act =>
    simp only [Call.always, Call.resume]
    cases c.session? id with
    | none => exact (Call.OfPoll.acting id act).renews
    | some s => exact (renews_proceed hp _).after (by simp)
  | looking => exact Call.OfPoll.looking.renews
  | approaching id => exact (Call.OfPoll.approaching id).renews
  | waiting id => exact (Call.OfPoll.waiting id).renews
  | removing n => exact (Call.OfPoll.removing n).renews
  | retiring id n => exact (Call.OfPoll.retiring id n).renews
  | queueing id n => exact (Call.OfPoll.queueing id n).renews

theorem always_need : call.always.need c k = call.need c k := by
  cases call <;> rfl

theorem always_said (a : Answer) : call.always.said? c k a = call.said? c k a := by
  unfold Call.said?
  rw [always_need]

/-- Of all notices of a poll just the one that ends it is the last of its subscription. -/
theorem Poll.Heard.next (h : ∀ n ∈ heard, n.isLast = false) (hst : st.Renews p ns st') :
    p.Heard (heard ++ ns) st' := by
  cases hst with
  | going of =>
    rw [List.append_nil]
    exact .going h of
  | next goesOn =>
    have hnotices := List.forall_mem_append.2 ⟨h, List.forall_mem_singleton.2 goesOn⟩
    exact Heard.going hnotices (Call.OfPoll.looking (p := p))
  | last last => exact .ended h last

end Renewal

/-- How a poll for all notices stands that has a session to itself: how many notices it has received by
these reads, and how far its end is at most, with each byte that is left counted as one more round. -/
inductive Poll.Listens (parser : Parser) (space : String) (p : Poll) (k : CallId) (id : SessionId)
    (s : Session) (c : Client) (l : List Delivery) : Nat → Nat → CallStatus → Prop
  | going {s' : Session} {before cur : List Delivery} {gone : List ConnId} {call : Call} {count : Nat}
    (conn : s'.conn = s.conn) (capacity : s'.buffer.capacity = s.buffer.capacity)
    (reads : l = before ++ cur)
    (taken : count + s'.buffer.unparsed.length ≤ s.buffer.unparsed.length + delivered before)
    (of : call.OfPoll p) (stands : p.Stands parser space k id s' c cur gone (.going call)) :
    Listens parser space p k id s c l count
      (8 * (s'.buffer.unparsed.length + delivered cur) + call.ahead) (.going call.always)
  | ended {count : Nat} (taken : count ≤ s.buffer.unparsed.length + delivered l + 1) :
    Listens parser space p k id s c l count 0 (.done .followed)

section Listening
variable {parser : Parser} {space : String} {p : Poll} {k : CallId} {id : SessionId} {s s' : Session}
variable {c c' : Client} {l before cur : List Delivery} {gone : List ConnId} {st st' : CallStatus}
variable {call : Call} {b : Buffer} {r : Except Error Message} {ns : List Notice} {count left : Nat}
variable {n : Notice}

theorem Session.Takes.capacity (h : s.Takes parser l b r) : b.capacity = s.buffer.capacity := by
  cases h with
  | refused => rfl
  | received isOpen run => exact Buffer.receive_capacity run

/-- A notice that is not the last one has taken some of the bytes that its poll has had. -/
theorem Session.Takes.unparsed_lt (hp : parser.Advances) (h : s.Takes parser l b r)
    (hn : (p.told space r).isLast = false) :
    b.unparsed.length < s.buffer.unparsed.length + delivered l := by
  cases r with
  | error e => cases hn
  | ok m =>
    cases h with
    | received isOpen run => exact SpaceGateway.unparsed_lt hp run

/-- What a poll that has returned a notice leaves for the next one. -/
theorem Poll.Stands.told (h : p.Stands parser space k id s c l gone (.done (.notice n)))
    (hn : n.isLast = false) : ∃ b r, s.Takes parser l b r ∧ n = p.told space r ∧
      c.Keeps p.subscription (some id) id ⟨{ s with buffer := b }, [], 1⟩ := by
  obtain ⟨found, x, hkeeps, hstage⟩ := h
  cases hstage with
  | told takes => exact ⟨_, _, takes, rfl, hkeeps⟩
  | ended takes last => cases last.symm.trans hn

/-- What the poll for the next notice comes to, the one for all goes on from. -/
theorem Poll.listens_next (hp : parser.Advances) (hconn : s'.conn = s.conn)
    (hcapacity : s'.buffer.capacity = s.buffer.capacity)
    (htaken : count + s'.buffer.unparsed.length ≤ s.buffer.unparsed.length + delivered before)
    (h : p.Stands parser space k id s' c cur gone st) (hst : st.Renews p ns st') :
    ∃ left, p.Listens parser space k id s c (before ++ cur) (count + ns.length) left st' ∧
      left ≤ 8 * (s'.buffer.unparsed.length + delivered cur) + st.ahead := by
  cases hst with
  | going of => exact ⟨_, .going hconn hcapacity rfl htaken of h, Nat.le_refl _⟩
  | next goesOn =>
    obtain ⟨b, r, htakes, rfl, hkeeps⟩ := h.told goesOn
    have hless := htakes.unparsed_lt hp goesOn
    have hlooks : p.Stands parser space k id { s' with buffer := b } c [] [] (.going (.looking p)) :=
      ⟨_, _, hkeeps, .looking⟩
    have hconn : ({ s' with buffer := b } : Session).conn = s.conn := hconn
    have hcapacity : ({ s' with buffer := b } : Session).buffer.capacity = s.buffer.capacity :=
      htakes.capacity.trans hcapacity
    have htaken : count + [p.told space r].length + b.unparsed.length ≤
        s.buffer.unparsed.length + delivered (before ++ cur) := by
      simp only [List.length_singleton, delivered_append]
      omega
    -- The byte that the notice has taken up pays for the steps of one more round.
    refine ⟨_, .going hconn hcapacity (List.append_nil _).symm htaken .looking hlooks, ?_⟩
    simp only [delivered_nil, Call.ahead, CallStatus.ahead]
    omega
  | last last =>
    refine ⟨0, .ended ?_, Nat.zero_le _⟩
    simp only [List.length_singleton, delivered_append]
    omega

/-- A step brings a poll for all notices nearer to its end, unless it waits for a read. -/
theorem Poll.Listens.step (hadv : parser.Advances) (hp : p.endless = false) (hspace : c.peer.space = space)
    (h : p.Listens parser space k id s c l count left (.going call)) :
    let x := call.step parser c k
    ∃ left', p.Listens parser space k id s x.client l (count + (notices x.events).length) left' x.status ∧
      (left' < left ∨ ∃ e a, call = .acting id e a) := by
  cases h with
  | going conn capacity reads taken of stands =>
    subst reads
    obtain ⟨hstands, hless⟩ := stands.step hp hspace
    obtain ⟨hclient, hstatus⟩ := @Call.OfPoll.renews_step parser p c k _ hp of
    rw [← hclient] at hstands
    obtain ⟨left', hlistens, hle⟩ := listens_next hadv conn capacity taken hstands hstatus
    refine ⟨left', hlistens, hless.imp (fun hless => ?_) fun ⟨seen, hcall⟩ => ?_⟩
    · omega
    · subst hcall
      exact ⟨_, _, rfl⟩

/-- A read leaves it no further from its end than the bytes that it has brought are worth, and nearer if
these are none. -/
theorem Poll.Listens.resume (hadv : parser.Advances) (hp : p.endless = false)
    (hspace : c.peer.space = space)
    (h : p.Listens parser space k id s c l count left (.going call)) (a : Answer) :
    let x := call.resume parser c k a
    let count' := count + (notices x.events).length
    (call.said? c k a = none ∧
        ∃ left', p.Listens parser space k id s x.client l count' left' x.status) ∨
      ∃ y : Delivery, a = y.answer ∧
        call.said? c k a = some (.read s.conn s.buffer.capacity, y.answer) ∧
        ∃ left', p.Listens parser space k id s x.client (l ++ [y]) count' left' x.status ∧
          left' ≤ left + 8 * delivered [y] ∧ (y.section? = none → left' < left) := by
  cases h with
  | going conn capacity reads taken of stands =>
    subst reads
    obtain ⟨hclient, hstatus⟩ := @Call.OfPoll.renews_resume parser p c k _ hp of a
    rw [always_said, ← conn, ← capacity]
    rcases stands.resume hp hspace a with ⟨hnone, hstands⟩ | ⟨y, rfl, hread, hstands, hle, hless⟩
    · rw [← hclient] at hstands
      obtain ⟨left', hlistens, -⟩ := listens_next hadv conn capacity taken hstands hstatus
      exact .inl ⟨hnone, left', hlistens⟩
    · rw [← hclient] at hstands
      obtain ⟨left', hlistens, hle'⟩ := listens_next hadv conn capacity taken hstands hstatus
      rw [← List.append_assoc] at hlistens
      rw [delivered_append] at hle'
      refine .inr ⟨y, rfl, hread, left', hlistens, ?_, fun hy => ?_⟩
      · omega
      · have hnearer := hless hy
        rw [delivered_end hy] at hle'
        omega

/-- What is done elsewhere leaves a poll for all notices where it is. -/
theorem Poll.Listens.elsewhere (h : p.Listens parser space k id s c l count left st)
    (htable : c'.find? p.subscription = c.find? p.subscription)
    (hsession : c'.sessions[id]? = c.sessions[id]?) :
    p.Listens parser space k id s c' l count left st := by
  cases h with
  | going conn capacity reads taken of stands =>
    exact .going conn capacity reads taken of (stands.elsewhere htable hsession)
  | ended taken => exact .ended taken

theorem Poll.Listens.count_le (h : p.Listens parser space k id s c l count left st) :
    count ≤ s.buffer.unparsed.length + delivered l + 1 := by
  cases h with
  | going conn capacity reads taken =>
    rw [reads, delivered_append]
    omega
  | ended taken => exact taken

/-- A poll that has a session to itself waits for a read, or for nothing. -/
theorem Poll.Listens.need (h : p.Listens parser space k id s c l count left (.going call)) :
    (∃ e seen, call = .acting id e (.receiving seen) ∧
        call.need c k = .answer (.read s.conn s.buffer.capacity)) ∨
      call.need c k = .nothing ∧ ∀ e a, call ≠ .acting id e a := by
  cases h with
  | @going s' before cur gone call count conn capacity reads taken of stands =>
    obtain ⟨found, x, hkeeps, hstage⟩ := stands
    rw [always_need]
    cases hstage with
    | looking => exact .inr ⟨rfl, by simp [Call.always]⟩
    | approaching => exact .inr ⟨rfl, by simp [Call.always]⟩
    | waiting => exact .inr ⟨by simp [Call.need, hkeeps.isTurn], by simp [Call.always]⟩
    | removing => exact .inr ⟨rfl, by simp [Call.always]⟩
    | retiring => exact .inr ⟨rfl, by simp [Call.always]⟩
    | queueing => exact .inr ⟨by simp [Call.need, hkeeps.isTurn], by simp [Call.always]⟩
    | @reading _ b seen isOpen run =>
      have hcap : b.capacity = s.buffer.capacity := (Buffer.receive_capacity run).trans capacity
      refine .inl ⟨_, _, rfl, ?_⟩
      simp [Call.need, Client.session?_eq hkeeps.shared, Session.demand, conn, hcap]

end Listening

namespace Desk

/-- The notices that a poll receives in a run. -/
def heard (d : Desk) (k : CallId) (moves : List Move) : List Notice :=
  notices ((d.deeds k moves).flatMap (·.seen))

/-- The first `n` moves of a call that is left to itself. Its reads bring these, and then the end of the
connection each time. -/
def playOut (d : Desk) (k : CallId) (last : Delivery) : Nat → List Delivery → List Move
  | 0, _ => []
  | n + 1, more =>
    match d.need k with
    | .nothing => .step k :: (d.move (.step k)).playOut k last n more
    | .answer _ =>
      let mv := Move.resume k (more.headD last).answer
      mv :: (d.move mv).playOut k last n more.tail
    | .others => []

/-- Three steps of a poll, from one look into the table to the next. -/
def round (k : CallId) : List Move := [.step k, .step k, .step k]

/-- Whether a poll for all notices has returned just if it has received the last notice of its
subscription, and has received no other after that. -/
structure HearsOut (d : Desk) (k : CallId) (moves : List Move) : Prop where
  earlier : ∀ n ∈ (d.heard k moves).dropLast, n.isLast = false
  returned : ∀ r, (d.moveAll moves).Returned k r ↔ r = .followed ∧ ∃ n ∈ d.heard k moves, n.isLast = true

/-- What a poll for all notices comes to that has a session to itself. -/
structure Stops (d : Desk) (k : CallId) (s : Session) (moves : List Move) : Prop where
  /-- Each notice but the last takes up a byte that was held or read. -/
  few : ∃ l, d.dialogue k moves = reads s.conn s.buffer.capacity l ∧
    (d.heard k moves).length ≤ s.buffer.unparsed.length + delivered l + 1
  /-- When its connection ends, whatever is read before, it returns. -/
  stops : ∀ more last, last.section? = none →
    ∃ n, (d.moveAll (moves ++ (d.moveAll moves).playOut k last n more)).Returned k .followed

/-- How a poll for all notices stands that has a session to itself after these deeds. -/
def Listens (d : Desk) (k : CallId) (p : Poll) (id : SessionId) (s : Session) (pre : List Move)
    (deeds : List Deed) (st : CallStatus) : Prop :=
  ∃ l left, deeds.filterMap (·.said) = reads s.conn s.buffer.capacity l ∧
    p.Listens d.codec.parser d.client.peer.space k id s (d.moveAll pre).client l
      (notices (deeds.flatMap (·.seen))).length left st

section Runs
variable {d : Desk} {k : CallId} {node sub : String} {moves pre : List Move} {p : Poll}
variable {id : SessionId} {s : Session} {call : Call} {l more : List Delivery} {last : Delivery}
variable {st : CallStatus} {deeds : List Deed} {count left : Nat} {n : Notice} {m : Message}

/-- What a poll for all notices has received says how it stands. -/
theorem Makes.heard (hm : d.Makes k (.follow node sub) moves) :
    ∃ st, Poll.Heard ⟨node, sub, false⟩ (d.heard k moves) st ∧ (d.moveAll moves).Stands k st := by
  have hcall : Call.ofCommand d.codec d.client.peer (.follow node sub) =
      .ok (.looking ⟨node, sub, true⟩) := rfl
  refine hm.induction (P := fun _ (deeds : List Deed) st =>
    Poll.Heard ⟨node, sub, false⟩ (notices (deeds.flatMap (·.seen))) st) hcall ?_ ?_ ?_ ?_
  · exact fun pre => .going (by simp [Deed.ofStep, Call.begin]) .looking
  · intro pre deeds call hst hP x
    rw [List.flatMap_append, notices_append]
    generalize notices (deeds.flatMap (·.seen)) = heard at hP
    cases hP with
    | going goesOn of =>
      simpa [Deed.ofStep] using Poll.Heard.next goesOn (of.renews_step rfl).status
  · intro pre deeds call a hst hP x
    rw [List.flatMap_append, notices_append]
    generalize notices (deeds.flatMap (·.seen)) = heard at hP
    cases hP with
    | going goesOn of =>
      simpa [Deed.ofStep] using Poll.Heard.next goesOn (of.renews_resume rfl a).status
  · exact fun _ _ _ _ hP => hP

theorem heard_append (l l' : List Move) :
    d.heard k (l ++ l') = d.heard k l ++ (d.moveAll l).heard k l' := by
  simp [Desk.heard, deeds_append]

theorem dialogue_append (l l' : List Move) :
    d.dialogue k (l ++ l') = d.dialogue k l ++ (d.moveAll l).dialogue k l' := by
  simp [dialogue, deeds_append]

theorem Makes.hears_out (hm : d.Makes k (.follow node sub) moves) : d.HearsOut k moves := by
  obtain ⟨st, hheard, hst⟩ := hm.heard
  constructor
  · generalize d.heard k moves = heard at hheard
    cases hheard with
    | going goesOn => exact fun n hn => goesOn n (List.dropLast_subset _ hn)
    | ended goesOn => simpa using goesOn
  · intro r
    rw [hst.returned_iff]
    generalize d.heard k moves = heard at hheard
    cases hheard with
    | going goesOn =>
      refine ⟨nofun, fun ⟨_, n, hn, hlast⟩ => ?_⟩
      cases (goesOn n hn).symm.trans hlast
    | @ended _ n goesOn last =>
      constructor
      · rintro ⟨⟩
        exact ⟨rfl, n, by simp, last⟩
      · rintro ⟨rfl, -⟩
        rfl

theorem Listens.step (hadv : d.codec.parser.Advances) (hp : p.endless = false)
    (hst : (d.moveAll pre).Stands k (.going call)) (h : d.Listens k p id s pre deeds (.going call)) :
    let x := call.step d.codec.parser (d.moveAll pre).client k
    d.Listens k p id s (pre ++ [.step k]) (deeds ++ [.ofStep (d.moveAll pre).client none x])
      x.status := by
  obtain ⟨l, left, hsaid, hlistens⟩ := h
  have hclient := hst.client_step
  rw [codec_moveAll] at hclient
  obtain ⟨left', hnext, -⟩ := hlistens.step hadv hp (peer_moveAll d pre ▸ rfl)
  refine ⟨l, left', by simpa [Deed.ofStep] using hsaid, ?_⟩
  simpa [Deed.ofStep, hclient] using hnext

theorem Listens.resume (hadv : d.codec.parser.Advances) (hp : p.endless = false)
    (hst : (d.moveAll pre).Stands k (.going call)) (h : d.Listens k p id s pre deeds (.going call))
    (a : Answer) :
    let x := call.resume d.codec.parser (d.moveAll pre).client k a
    d.Listens k p id s (pre ++ [.resume k a])
      (deeds ++ [.ofStep (d.moveAll pre).client (call.said? (d.moveAll pre).client k a) x])
      x.status := by
  obtain ⟨l, left, hsaid, hlistens⟩ := h
  have hclient := hst.client_resume a
  rw [codec_moveAll] at hclient
  rcases hlistens.resume hadv hp (peer_moveAll d pre ▸ rfl) a with
    ⟨hnone, left', hnext⟩ | ⟨y, rfl, hread, left', hnext, -⟩
  · refine ⟨l, left', by simpa [Deed.ofStep, hnone] using hsaid, ?_⟩
    simpa [Deed.ofStep, hclient] using hnext
  · refine ⟨l ++ [y], left', by simp [Deed.ofStep, hread, hsaid, reads], ?_⟩
    simpa [Deed.ofStep, hclient] using hnext

/-- The course of a poll for all notices that has a session to itself. -/
theorem Makes.listens (hadv : d.codec.parser.Advances) (hm : d.Makes k (.follow node sub) moves)
    (hs : d.LeavesTo k sub moves) (hfound : d.client.find? sub = some id)
    (hshared : d.client.sessions[id]? = some { session := s }) :
    ∃ st, d.Listens k ⟨node, sub, false⟩ id s moves (d.deeds k moves) st ∧
      (d.moveAll moves).Stands k st := by
  refine hm.follow_left hs rfl ?_ (fun _ _ _ hst hP => hP.step hadv rfl hst)
    (fun _ _ _ a hst hP => hP.resume hadv rfl hst a) ?_
  · intro pre htable hsession
    have hlooks : Poll.Stands d.codec.parser d.client.peer.space ⟨node, sub, false⟩ k id s
        (d.moveAll pre).client [] [] (.going (.looking ⟨node, sub, false⟩)) :=
      ⟨_, _, ⟨htable.trans hfound, (hsession id hfound).trans hshared⟩, .looking⟩
    exact ⟨[], _, rfl, .going rfl rfl (List.append_nil []).symm (Nat.le_of_eq (Nat.zero_add _))
      .looking hlooks⟩
  · rintro pre deeds st mv htable hsession ⟨l, left, hsaid, hlistens⟩
    exact ⟨l, left, hsaid, hlistens.elsewhere htable (hsession id hfound)⟩

theorem Stands.need (hst : d.Stands k (.going call)) : d.need k = call.need d.client k := by
  cases hst with
  | going x started => simp [Desk.need, started]

/-- A poll that is left to itself returns when its connection has ended. -/
theorem Stands.plays_out (hst : d.Stands k st) (hadv : d.codec.parser.Advances)
    (hp : p.endless = false) (hlast : last.section? = none)
    (h : p.Listens d.codec.parser d.client.peer.space k id s d.client l count left st) :
    ∃ n, (d.moveAll (d.playOut k last n more)).Returned k .followed := by
  -- A byte that is still to come is worth as many steps as one that is held.
  induction hn : left + 8 * delivered more + more.length using Nat.strongRecOn
    generalizing d l count left st more with
  | _ n ih =>
    subst hn
    cases st with
    | done r =>
      cases h with
      | ended => exact ⟨0, hst.returned_iff.2 rfl⟩
    | going call =>
      have hneed := hst.need
      rcases h.need with ⟨e, seen, hcall, hread⟩ | ⟨hnothing, hidle⟩
      · generalize hy : more.headD last = y
        have hsaid : call.said? d.client k y.answer =
            some (.read s.conn s.buffer.capacity, y.answer) := by
          simp [Call.said?, hread, Exchange.isSome_read]
        rcases h.resume hadv hp rfl y.answer with ⟨hnone, -⟩ | ⟨y', hsame, -, left', hnext, hle, hless⟩
        · cases hnone.symm.trans hsaid
        obtain rfl : y = y' := by
          cases y <;> cases y' <;> cases hsame <;> rfl
        have hnearer : left' + 8 * delivered more.tail + more.tail.length <
            left + 8 * delivered more + more.length := by
          cases more with
          | nil =>
            obtain rfl : last = y := hy
            have hless := hless hlast
            simp only [List.tail_nil]
            omega
          | cons x more =>
            obtain rfl : x = y := hy
            have hsplit : delivered (x :: more) = delivered [x] + delivered more :=
              delivered_append (l := [x])
            simp only [List.tail_cons, List.length_cons, hsplit]
            omega
        rw [← hst.client_resume] at hnext
        obtain ⟨n, hn⟩ := ih _ hnearer (hst.resume y.answer).2 (by simpa using hadv)
          (by simpa [peer_move] using hnext) rfl
        refine ⟨n + 1, ?_⟩
        rw [playOut, hneed, hread]
        simpa only [hy, moveAll_cons] using hn
      · obtain ⟨left', hnext, hless | ⟨e, a, hcall⟩⟩ := h.step hadv hp rfl
        · have hnearer : left' + 8 * delivered more + more.length <
              left + 8 * delivered more + more.length := by
            omega
          rw [← hst.client_step] at hnext
          obtain ⟨n, hn⟩ := ih _ hnearer hst.step.2 (by simpa using hadv)
            (by simpa [peer_move] using hnext) rfl
          refine ⟨n + 1, ?_⟩
          rw [playOut, hneed, hnothing]
          exact hn
        · exact (hidle e a hcall).elim

/-- With a parser that advances a poll that has a session to itself stops. -/
theorem Makes.stops (hadv : d.codec.parser.Advances) (hm : d.Makes k (.follow node sub) moves)
    (hs : d.LeavesTo k sub moves) (hfound : d.client.find? sub = some id)
    (hshared : d.client.sessions[id]? = some { session := s }) : d.Stops k s moves := by
  obtain ⟨st, ⟨l, left, hsaid, hlistens⟩, hst⟩ := hm.listens hadv hs hfound hshared
  refine ⟨⟨l, hsaid, hlistens.count_le⟩, fun more last hlast => ?_⟩
  rw [← codec_moveAll d moves] at hadv hlistens
  rw [← peer_moveAll d moves] at hlistens
  simpa using hst.plays_out hadv rfl hlast hlistens

/-- What a poll for all notices of a subscription comes to. -/
theorem follow_stops (hm : d.Makes k (.follow node sub) moves) :
    (∀ parser : Parser, parser.GetsOn ↔ parser.Advances) ∧ d.HearsOut k moves ∧
      (d.codec.parser.Advances → d.LeavesTo k sub moves → ∀ id s, d.client.find? sub = some id →
        d.client.sessions[id]? = some { session := s } → d.Stops k s moves) := by
  refine ⟨fun _ => getsOn_iff, hm.hears_out, fun hadv hs id s hfound hshared => ?_⟩
  exact hm.stops hadv hs hfound hshared

/-- A poll for all notices whose read brings an indication and one byte more. -/
def following : List Move :=
  [.start 1 (.follow "NODE" "s"), .step 1, .step 1, .step 1, .resume 1 (.delivered [0, 5])]

theorem follow_stops_of_indication :
    indicated.Makes 1 (.follow "NODE" "s") following ∧ indicated.codec.parser.Advances ∧
      indicated.LeavesTo 1 "s" following ∧ indicated.client.find? "s" = some 0 ∧
      indicated.Stops 1 { conn := 3, buffer := { capacity := 64 } } following := by
  have hm : indicated.Makes 1 (.follow "NODE" "s") following := by
    refine ⟨⟨rfl, ?_⟩, rfl⟩
    rintro r ⟨x, hx, -⟩
    cases hx
  have hadv : indicated.codec.parser.Advances := fun _ _ _ h =>
    Nat.one_ne_zero (ParseOutcome.complete.inj h).1
  have hs : indicated.LeavesTo 1 "s" following := leavesTo_alone (by decide +kernel)
  exact ⟨hm, hadv, hs, rfl, (follow_stops hm).2.2 hadv hs 0 _ rfl rfl⟩

/-- The poll has received the indication, and a second one takes up the byte that was left over. -/
example : indicated.heard 1 (following ++ round 1) =
    [.indication 7 "" "", .indication 7 "" ""] := by
  decide +kernel

/-- When its turn comes a poll receives a message that takes up nothing of the buffer without a read. -/
theorem embark_idle {c : Client} {parser : Parser} (hp : p.endless = false)
    (hk : c.Keeps p.subscription (some id) id ⟨s, [k], 2⟩) (hopen : s.isOpen = true)
    (hsome : s.buffer.unparsed ≠ []) (hidle : parser [s.buffer.unparsed] = .complete 0 m)
    (hn : Notice.classify p.node c.peer.space p.subscription m = .ok n) (hgoes : n.isLast = false) :
    let x := (Call.waiting id (.poll p)).step parser c k
    x.client.Keeps p.subscription (some id) id ⟨s, [], 1⟩ ∧ x.status = .done (.notice n) := by
  have hreceive : s.receive parser =
      (.received s m, Session.parsed (.done s.buffer [s.buffer.unparsed] (.ok m))) := by
    unfold Session.receive
    rw [if_pos hopen, receive_idle hsome hidle]
    rfl
  simp only [Call.step, Client.session?_eq hk.shared, hk.isTurn, if_true, Call.embark, hreceive,
    Call.proceed, Call.conclude, Client.put_leave_of_two hk.shared]
  refine ⟨hk.withShared, ?_⟩
  simp [Step.after, Call.outcome, Call.polled, Except.bind, hn, Call.noted, hgoes, Notice.ofResult,
    notify_done hp]

/-- A step of a poll for all notices, by the step of the one for the next notice. -/
theorem Stands.step_always (hp : p.endless = false) (hst : d.Stands k (.going call.always))
    (of : call.OfPoll p) :
    let x := call.step d.codec.parser d.client k
    (d.move (.step k)).client = x.client ∧ d.dialogue k [.step k] = [] ∧
      ∃ st, x.status.Renews p (d.heard k [.step k]) st ∧ (d.move (.step k)).Stands k st := by
  obtain ⟨hdeed, hnext⟩ := hst.step
  obtain ⟨hclient, hstatus⟩ := @Call.OfPoll.renews_step d.codec.parser p d.client k call hp of
  refine ⟨hst.client_step.trans hclient, by simp [dialogue, deeds, hdeed, Deed.ofStep], _, ?_, hnext⟩
  simpa [Desk.heard, deeds, hdeed, Deed.ofStep] using hstatus

theorem Stands.step_going {call' : Call} {c' : Client} {x : Shared} (hp : p.endless = false)
    (hst : d.Stands k (.going call.always)) (of : call.OfPoll p)
    (hx : call.step d.codec.parser d.client k = ⟨c', .going call', []⟩)
    (hk : c'.Keeps p.subscription (some id) id x) :
    (d.move (.step k)).Stands k (.going call'.always) ∧
      (d.move (.step k)).client.Keeps p.subscription (some id) id x ∧
      d.heard k [.step k] = [] ∧ d.dialogue k [.step k] = [] := by
  obtain ⟨hclient, hdialogue, st, hrenews, hnext⟩ := Stands.step_always hp hst of
  rw [hx] at hclient hrenews
  generalize d.heard k [.step k] = ns at *
  cases hrenews with
  | going => exact ⟨hnext, hclient ▸ hk, rfl, hdialogue⟩

/-- After three steps such a poll has received the message, and stands as before. -/
theorem Stands.idle_round (hp : p.endless = false) (hst : d.Stands k (.going (.looking p.always)))
    (hk : d.client.Keeps p.subscription (some id) id ⟨s, [], 1⟩) (hopen : s.isOpen = true)
    (hsome : s.buffer.unparsed ≠ []) (hidle : d.codec.parser [s.buffer.unparsed] = .complete 0 m)
    (hn : Notice.classify p.node d.client.peer.space p.subscription m = .ok n)
    (hgoes : n.isLast = false) :
    (d.moveAll (round k)).Stands k (.going (.looking p.always)) ∧
      (d.moveAll (round k)).client.Keeps p.subscription (some id) id ⟨s, [], 1⟩ ∧
      d.heard k (round k) = [n] ∧ d.dialogue k (round k) = [] := by
  have hlook : (Call.looking p).step d.codec.parser d.client k =
      ⟨d.client.hold id, .going (.approaching id (.poll p)), []⟩ := by
    simp only [Call.step, hk.table]
  obtain ⟨hst₁, hk₁, hheard₁, hdialogue₁⟩ := hst.step_going hp .looking hlook hk.modify
  obtain ⟨hst₂, hk₂, hheard₂, hdialogue₂⟩ := hst₁.step_going hp (.approaching id) rfl hk₁.modify
  obtain ⟨hclient, hdialogue₃, st, hrenews, hst₃⟩ := Stands.step_always hp hst₂ (.waiting id)
  obtain ⟨hk₃, hdone⟩ := embark_idle hp hk₂ hopen hsome hidle
    (by simpa [peer_move] using hn) hgoes
  have hround : round k = [.step k] ++ ([.step k] ++ [.step k]) := rfl
  have hheard : d.heard k (round k) = ((d.move (.step k)).move (.step k)).heard k [.step k] := by
    rw [hround, heard_append, heard_append, hheard₁]
    exact congrArg (· ++ _) hheard₂
  have hdialogue : d.dialogue k (round k) = [] := by
    rw [hround, dialogue_append, dialogue_append, hdialogue₁]
    exact congrArg₂ (· ++ ·) hdialogue₂ hdialogue₃
  simp only [codec_move] at hclient hrenews
  rw [← hclient] at hk₃
  rw [hdone, ← hheard] at hrenews
  generalize d.heard k (round k) = ns at hrenews ⊢
  cases hrenews with
  | next => exact ⟨hst₃, hk₃, rfl, hdialogue⟩
  | last last => cases hgoes.symm.trans last

/-- So it receives one message for ever. -/
theorem Stands.floods (hp : p.endless = false) (hst : d.Stands k (.going (.looking p.always)))
    (hk : d.client.Keeps p.subscription (some id) id ⟨s, [], 1⟩) (hopen : s.isOpen = true)
    (hsome : s.buffer.unparsed ≠ []) (hidle : d.codec.parser [s.buffer.unparsed] = .complete 0 m)
    (hn : Notice.classify p.node d.client.peer.space p.subscription m = .ok n)
    (hgoes : n.isLast = false) (i : Nat) :
    d.heard k (List.replicate i (round k)).flatten = List.replicate i n ∧
      d.dialogue k (List.replicate i (round k)).flatten = [] := by
  induction i generalizing d with
  | zero => exact ⟨rfl, rfl⟩
  | succ i ih =>
    obtain ⟨hst', hk', hheard, hdialogue⟩ := hst.idle_round hp hk hopen hsome hidle hn hgoes
    obtain ⟨hheards, hdialogues⟩ := ih hst' hk' (by simpa using hidle) (by simpa using hn)
    rw [List.replicate_succ, List.flatten_cons, heard_append, dialogue_append, hheard, hdialogue,
      hheards, hdialogues]
    exact ⟨rfl, rfl⟩

/-- A registered subscription with a byte left over, and a codec that finds an indication of it before
any byte. -/
def stalled : Desk where
  codec := ⟨fun _ => .ok [], fun _ => .complete 0
    { transaction := .subscribe, role := .indication, node := "node", space := "space"
      subscription := some "S", sequence := some 7 }⟩
  client :=
    { peer := ⟨"Space", ⟨"host", 1⟩, 64⟩
      sessions := [{ session := { conn := 3, buffer := { capacity := 64, valid := 1, unparsed := [5] } } }]
      subscriptions := [("s", 0)] }

/-- A poll for all notices that makes this many rounds. -/
def flooding (i : Nat) : List Move :=
  .start 1 (.follow "NODE" "s") :: (List.replicate i (round 1)).flatten

/-- Without a read there is a message after the other, which leaves the buffer as it was. -/
theorem endless_notices_of_idle_answers : ¬ stalled.codec.parser.GetsOn ∧
    ∀ i, stalled.heard 1 (flooding i) = List.replicate i (.indication 7 "" "") ∧
      stalled.dialogue 1 (flooding i) = [] := by
  constructor
  · rw [getsOn_iff]
    exact fun hadv => hadv [5] _ (by decide) rfl
  · intro i
    have hbuilt : Call.ofCommand stalled.codec stalled.client.peer (.follow "NODE" "s") =
        .ok (Call.looking ⟨"NODE", "s", false⟩).always := rfl
    have hunused : stalled.Unused 1 := ⟨rfl, by rintro r ⟨x, hx, -⟩; cases hx⟩
    obtain ⟨-, hst⟩ := start_built hbuilt hunused
    have hk : (stalled.move (.start 1 (.follow "NODE" "s"))).client.Keeps "s" (some 0) 0
        ⟨{ conn := 3, buffer := { capacity := 64, valid := 1, unparsed := [5] } }, [], 1⟩ :=
      ⟨rfl, rfl⟩
    have hnews : Notice.classify "NODE" "Space" "s"
        { transaction := .subscribe, role := .indication, node := "node", space := "space"
          subscription := some "S", sequence := some 7 } = .ok (.indication 7 "" "") := by
      decide +kernel
    exact Stands.floods (p := ⟨"NODE", "s", false⟩) rfl hst hk rfl (by decide) rfl hnews rfl i

end Runs
end Desk
end SpaceGateway
