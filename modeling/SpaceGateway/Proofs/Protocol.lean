import SpaceGateway.Proofs.Footprint
/-!
What a task sends, as its course has it: one of few sequences of replies, and at most one connection
that it opens and gives up again.
-/
namespace SpaceGateway

/-- A change of the results of a subscription. -/
def Reply.IsChange (access subscription : String) (r : Reply) : Prop :=
  ∃ n added removed, r = .changed access n subscription added removed

/-- The sequences of replies that answer an operation. -/
inductive Answered (access : String) : Operation → List Reply → Prop
  | join (o : Outcome) : Answered access .join [.joined access o]
  | leave : Answered access .leave []
  | insert (e s o payload) : Answered access (.insert e s) [.inserted access o payload]
  | update (e i r o payload) : Answered access (.update e i r) [.updated access o payload]
  | remove (e s o payload) : Answered access (.remove e s) [.removed access o payload]
  | query (l q o payload) : Answered access (.query l q) [.results access o payload]
  | unsubscribe (s) : Answered access (.unsubscribe s) []
  | notUnsubscribed (s) : Answered access (.unsubscribe s) [.unsubscribed access .failed s]
  | notSubscribed (l q s results) :
    Answered access (.subscribe l q) [.subscribed access .failed s results]
  | subscribed (l q s results changes o) (h : ∀ r ∈ changes, Reply.IsChange access s r) :
    Answered access (.subscribe l q)
      (.subscribed access .ok s results :: changes ++ [.unsubscribed access o s])

/-- What has been sent while a subscription is followed. -/
def Subscribed (access subscription : String) (replies : List Reply) : Prop :=
  ∃ results changes, replies = .subscribed access .ok subscription results :: changes ∧
    ∀ r ∈ changes, Reply.IsChange access subscription r

theorem Subscribed.answered {access s : String} {replies : List Reply} {o : Operation}
    {outcome : Outcome} (h : Subscribed access s replies) (ho : o.IsSubscribe) :
    Answered access o (replies ++ [.unsubscribed access outcome s]) := by
  obtain ⟨results, changes, rfl, hc⟩ := h
  cases o with
  | subscribe l q => exact .subscribed l q s results changes outcome hc
  | _ => exact ho.elim

theorem Answered.failure (access : String) (o : Operation) :
    Answered access o (Reply.failure? access o).toList := by
  cases o <;> constructor

section Told
variable {t : Task}

theorem answered_failed (e : Error) : Answered t.access t.operation (t.told (.failed e)) := by
  obtain ⟨_, _, _, _, _, o⟩ := t
  cases o <;> constructor

theorem answered_message (m : Message) (h : ¬ t.operation.IsSubscribe) :
    Answered t.access t.operation (t.told (.message m)) := by
  obtain ⟨_, _, _, _, _, o⟩ := t
  cases o with
  | subscribe => exact (h trivial).elim
  | query l q =>
    simp only [Task.told, Task.conclude]
    split <;> constructor
  | _ => constructor

theorem told_subscribed {m : Message} (h : t.operation.IsSubscribe) :
    t.told (.message m) =
      [.subscribed t.access .ok (m.subscription.getD "") (m.payload.getD "")] := by
  obtain ⟨_, _, _, _, _, o⟩ := t
  cases o <;> first | rfl | exact h.elim

theorem answered_sent (h : t.aim.purpose = .tell) :
    Answered t.access t.operation (t.told .sent) := by
  obtain ⟨_, _, _, _, _, o⟩ := t
  cases o <;> first | constructor | cases h

theorem isSubscribe_iff : t.operation.IsSubscribe ↔ t.aim.purpose = .keep := by
  obtain ⟨_, _, _, _, _, o⟩ := t
  cases o <;> simp [Operation.IsSubscribe, Task.aim, Aim.purpose]

theorem aim_eq (h : t.operation.IsSubscribe) :
    t.aim = .subscribe t.node t.operation.transaction := by
  obtain ⟨_, _, _, _, _, o⟩ := t
  cases o <;> first | rfl | exact h.elim

end Told

namespace Session
variable {parser : Parser} {s : Session}

/-- The session as an act leaves it. -/
def Progress.session : Progress → Session
  | busy s _ | sent s | finished s | received s _ | failed s _ => s

/-- Whether `s'` is the connection of `s`, and as open. -/
def IsSame (s s' : Session) : Prop := s'.conn = s.conn ∧ s'.isOpen = s.isOpen

theorem isSame_ofReceiving (r : Receiving) : s.IsSame (s.ofReceiving r).session := by
  rcases r with _ | ⟨b, seen, e | m⟩ <;> exact ⟨rfl, rfl⟩

theorem isSame_receive : s.IsSame (s.receive parser).1.session := by
  unfold receive
  split
  · exact isSame_ofReceiving _
  · exact ⟨rfl, rfl⟩

theorem isSame_send (b : Bytes) : s.IsSame (s.send b).session := by
  unfold send
  split <;> exact ⟨rfl, rfl⟩

theorem isSame_resume (a : Act) (x : Answer) : s.IsSame (s.resume parser a x).1.session := by
  unfold resume
  split <;> first | exact isSame_ofReceiving _ | exact ⟨rfl, rfl⟩

theorem traffic_close (h : s.isOpen = true) : traffic s.close.2 = [.closed s.conn] := by
  simp [close, h]

end Session

/-- What an exchange on a connection may come to, and what is seen of the connection then. -/
inductive Exchange.Leads (purpose : Purpose) (k : ConnId) : Exchange.Progress → List Traffic → Prop
  | busy (s a) (conn : s.conn = k) (isOpen : s.isOpen = true) :
    Leads purpose k (.busy (.acting s a)) []
  | kept (m s) (conn : s.conn = k) (isOpen : s.isOpen = true) (h : purpose = .keep) :
    Leads purpose k (.kept m s) []
  | failed (e) : Leads purpose k (.failed e) [.closed k]
  | told (h : purpose = .tell) : Leads purpose k .told [.closed k]
  | answered (m) (h : purpose ≠ .keep) : Leads purpose k (.answered m) [.closed k]

section Exchanges
variable {parser : Parser} {peer : Peer} {purpose : Purpose} {request : Bytes}

theorem follow_leads (p : Session.Progress) (h : p.session.isOpen = true) :
    Exchange.Leads purpose p.session.conn (Exchange.follow purpose p).1
      (traffic (Exchange.follow purpose p).2) := by
  cases p with
  | busy s a => exact .busy s a rfl h
  | finished s => exact .busy s _ rfl h
  | failed s e =>
    have hc : traffic s.close.2 = [.closed s.conn] := Session.traffic_close h
    simpa [Exchange.follow, Session.Progress.session, hc] using Exchange.Leads.failed e
  | sent s =>
    have hc : traffic s.close.2 = [.closed s.conn] := Session.traffic_close h
    by_cases hp : purpose = .tell
    · simpa [Exchange.follow, Session.Progress.session, hp, hc] using Exchange.Leads.told rfl
    · simpa [Exchange.follow, Session.Progress.session, hp] using Exchange.Leads.busy s _ rfl h
  | received s m =>
    have hc : traffic s.close.2 = [.closed s.conn] := Session.traffic_close h
    by_cases hp : purpose = .keep
    · simpa [Exchange.follow, Session.Progress.session, hp] using Exchange.Leads.kept m s rfl h rfl
    · simpa [Exchange.follow, Session.Progress.session, hp, hc] using Exchange.Leads.answered m hp

theorem resume_acting_leads {s : Session} (h : s.isOpen = true) (act : Act) (a : Answer) :
    Exchange.Leads purpose s.conn
      (Exchange.resume parser peer purpose request (.acting s act) a).1
      (traffic (Exchange.resume parser peer purpose request (.acting s act) a).2) := by
  have hs := @Session.isSame_resume parser s act a
  have hl := @follow_leads purpose (s.resume parser act a).1 (hs.2.trans h)
  rw [hs.1] at hl
  simpa [Exchange.resume] using hl

theorem resume_connected_leads (k : ConnId) (h : purpose ≠ .connect) :
    Exchange.Leads purpose k
      (Exchange.resume parser peer purpose request .connecting (.connected k)).1
      (traffic (Exchange.resume parser peer purpose request .connecting (.connected k)).2) := by
  have hs := Session.isSame_send (s := ⟨k, true, { capacity := peer.receiveBuffer }⟩) request
  have hl := @follow_leads purpose _ hs.2
  rw [hs.1] at hl
  simpa [Exchange.resume, h] using hl

end Exchanges

/-- What an answer to the exchange of a task may come to, once the connection `k` is open. -/
inductive Task.Exchanged (t : Task) (request : Bytes) (k : ConnId) (pre : List Traffic) :
    Turn → Prop
  | acting (s a) (conn : s.conn = k) (isOpen : s.isOpen = true) :
    Exchanged t request k pre ⟨.calling (.exchanging t.aim request (.acting s a)), [], pre⟩
  | registering (m subscription s) (conn : s.conn = k) (isOpen : s.isOpen = true) :
    Exchanged t request k pre ⟨.calling (.registering m subscription s), [], pre⟩
  | ended (replies) (h : Answered t.access t.operation replies) :
    Exchanged t request k pre ⟨.ended, replies, pre ++ [.closed k]⟩

section Course
variable {codec : Codec} {peer : Peer} {t : Task} {request : Bytes} {k : ConnId}

/-- An exchange that has its answer, and has closed its connection, is done. -/
theorem exchanged_answered (c : Client) (aim : Aim) (m : Message) :
    ∃ r ev, Call.exchanged c aim request (.answered m) = ⟨c, .done r, ev⟩ ∧ traffic ev = [] ∧
      (r = .message m ∨ ∃ e, r = .failed e) := by
  cases aim with
  | confirm node tr =>
    simp only [Call.exchanged]
    cases h : m.confirmed node c.peer.space tr with
    | ok m' =>
      obtain rfl := Message.confirmed_ok h
      exact ⟨_, _, rfl, rfl, .inl rfl⟩
    | error e => exact ⟨_, _, rfl, by simp, .inr ⟨e, rfl⟩⟩
  | _ => exact ⟨_, _, rfl, rfl, .inl rfl⟩

theorem settled_exchanged (pre : List Traffic) {p : Exchange.Progress} {ev : List Event}
    {tr : List Traffic} (h : Exchange.Leads t.aim.purpose k p tr) (hev : traffic ev = pre ++ tr) :
    t.Exchanged request k pre
      (Stage.settled t ((Call.exchanged { peer } t.aim request p).after ev)) := by
  cases h with
  | busy s a hc ho =>
    have he : traffic ev = pre := by simpa using hev
    simpa [Stage.settled, Step.after, Call.exchanged, he] using .acting s a hc ho
  | failed e =>
    simpa [Stage.settled, Step.after, Call.exchanged, hev] using .ended _ (answered_failed e)
  | told hp =>
    simpa [Stage.settled, Step.after, Call.exchanged, hev] using .ended _ (answered_sent hp)
  | answered m hp =>
    have hs : ¬ t.operation.IsSubscribe := fun h => hp (isSubscribe_iff.1 h)
    obtain ⟨r, ev', he, ht, hr⟩ := @exchanged_answered request { peer } t.aim m
    rw [he]
    rcases hr with rfl | ⟨e, rfl⟩
    · simpa [Stage.settled, Step.after, hev, ht] using .ended _ (answered_message m hs)
    · simpa [Stage.settled, Step.after, hev, ht] using .ended _ (answered_failed e)
  | kept m s hc ho hp =>
    have he : traffic ev = pre := by simpa using hev
    have hs : traffic s.close.2 = [.closed k] := hc ▸ Session.traffic_close ho
    have ha : ∃ node tr, t.aim = .subscribe node tr := by
      cases ha : t.aim <;> simp_all [Aim.purpose]
      unfold Task.aim at ha
      split at ha <;> cases ha
    obtain ⟨node, tr, ha⟩ := ha
    simp only [Stage.settled, Step.after, Call.exchanged, ha]
    cases m.confirmed node peer.space tr with
    | error e => simpa [he, hs] using .ended _ (answered_failed e)
    | ok m =>
      dsimp only
      cases m.subscription with
      | none => simpa [he, hs] using .ended _ (answered_failed _)
      | some sub => simpa [he] using .registering m sub s hc ho

end Course

/-- The session that a stage has to itself. -/
def Stage.session? : Stage → Option Session
  | calling (.exchanging _ _ (.acting s _)) | calling (.registering _ _ s) => some s
  | polling _ _ s | closing _ _ _ s => some s
  | _ => none

/-- How a task stands with its connection. -/
inductive Turn.Connected : Turn → Prop
  | unopened {c} (stage : c.stage.session? = none) (opened : openings c.traffic = [])
    (closed : closings c.traffic = []) : Connected c
  | opened {c} (s) (stage : c.stage.session? = some s) (isOpen : s.isOpen = true)
    (opened : openings c.traffic = [s.conn]) (closed : closings c.traffic = []) : Connected c
  | closed {c} (k) (stage : c.stage = .ended) (opened : openings c.traffic = [k])
    (closed : closings c.traffic = [k]) : Connected c

/-- What a task has sent when it has come this far. -/
def Turn.Replied (t : Task) (c : Turn) : Prop :=
  match c.stage with
  | .queued | .calling _ => c.replies = []
  | .polling subscription .. | .closing subscription .. =>
    Subscribed t.access subscription c.replies
  | .ended => Answered t.access t.operation c.replies

structure Turn.Sound (t : Task) (c : Turn) : Prop where
  fits : c.stage.Fits t
  connected : c.Connected
  replied : c.Replied t

section Sound
variable {codec : Codec} {peer : Peer} {t : Task} {c n : Turn} {s : Session}

/-- Only connecting opens a connection, and no answer gives one up. -/
theorem record_act (act : Act) (a : Answer) :
    openings ((s.demand act).record? a).toList = [] ∧
      closings ((s.demand act).record? a).toList = [] := by
  cases act <;> cases a <;> exact ⟨rfl, rfl⟩

theorem sound_of_exchanged {request : Bytes} {k : ConnId} {pre : List Traffic}
    (h : t.Exchanged request k pre n) (hf : n.stage.Fits t) (hr : c.replies = [])
    (ho : openings (c.traffic ++ pre) = [k]) (hc : closings (c.traffic ++ pre) = []) :
    (c.followedBy n).Sound t := by
  cases h with
  | acting s a hk hs =>
    refine ⟨hf, .opened s rfl hs ?_ hc, ?_⟩
    · exact ho.trans (by rw [hk])
    · simp [Turn.Replied, Turn.followedBy, hr]
  | registering m sub s hk hs =>
    refine ⟨hf, .opened s rfl hs ?_ hc, ?_⟩
    · exact ho.trans (by rw [hk])
    · simp [Turn.Replied, Turn.followedBy, hr]
  | ended replies h =>
    refine ⟨hf, .closed k rfl ?_ ?_, ?_⟩
    · have : openings (c.traffic ++ pre ++ [.closed k]) = [k] := by
        rw [openings_append, ho]; rfl
      simpa [Turn.followedBy] using this
    · have : closings (c.traffic ++ pre ++ [.closed k]) = [k] := by
        rw [closings_append, hc]; rfl
      simpa [Turn.followedBy] using this
    · simpa [Turn.Replied, Turn.followedBy, hr] using h

theorem next_exchanging (aim : Aim) (request : Bytes) (x : Exchange) (a : Answer) :
    Stage.next codec peer t (.calling (.exchanging aim request x)) (.answer a) =
      let r := x.resume codec.parser peer aim.purpose request a
      Stage.settled t
        ((Call.exchanged { peer } aim request r.1).after ((x.demand peer).events a ++ r.2)) :=
  rfl

theorem Turn.Sound.idle (h : c.Sound t) (hn : n = ⟨c.stage, [], []⟩) : (c.followedBy n).Sound t := by
  subst hn
  simpa [Turn.followedBy] using h

theorem aim_purpose_ne_connect (t : Task) : t.aim.purpose ≠ .connect := by
  unfold Task.aim
  split <;> simp [Aim.purpose]

/-- The session of a stage is open, and is the one connection of the task. -/
theorem Turn.Connected.session (h : c.Connected) (hs : c.stage.session? = some s) :
    s.isOpen = true ∧ openings c.traffic = [s.conn] ∧ closings c.traffic = [] := by
  cases h with
  | unopened hn => rw [hn] at hs; cases hs
  | opened s' hs' h₁ h₂ h₃ =>
    rw [hs'] at hs
    cases hs
    exact ⟨h₁, h₂, h₃⟩
  | closed k hk => rw [hk] at hs; cases hs

theorem Turn.Connected.unconnected (h : c.Connected) (hs : c.stage.session? = none)
    (ho : c.stage ≠ .ended) : openings c.traffic = [] ∧ closings c.traffic = [] := by
  cases h with
  | unopened _ h₁ h₂ => exact ⟨h₁, h₂⟩
  | opened s' hs' => rw [hs'] at hs; cases hs
  | closed k hk => exact (ho hk).elim

theorem exchanged_acting (request : Bytes) (h : s.isOpen = true) (act : Act) (a : Answer) :
    t.Exchanged request s.conn ((s.demand act).record? a).toList
      (Stage.next codec peer t (.calling (.exchanging t.aim request (.acting s act))) (.answer a)) := by
  have hl := @resume_acting_leads codec.parser peer t.aim.purpose request s h act a
  rw [next_exchanging]
  refine settled_exchanged _ hl ?_
  rw [traffic_append, traffic_events]
  rfl

theorem exchanged_connected (request : Bytes) (k : ConnId) :
    t.Exchanged request k [.opened k peer.address]
      (Stage.next codec peer t (.calling (.exchanging t.aim request .connecting))
        (.answer (.connected k))) := by
  have hl := @resume_connected_leads codec.parser peer t.aim.purpose request k
    (aim_purpose_ne_connect t)
  rw [next_exchanging]
  refine settled_exchanged _ hl ?_
  rw [traffic_append, traffic_events]
  rfl

theorem sound_exchanging {request : Bytes} {x : Exchange}
    (hc : c.stage = .calling (.exchanging t.aim request x)) (h : c.Sound t) (a : Answer) :
    (c.followedBy (c.stage.next codec peer t (.answer a))).Sound t := by
  have hf := @Stage.next_fits codec peer t c.stage h.fits (.answer a)
  have hr : c.replies = [] := by simpa [Turn.Replied, hc] using h.replied
  cases x with
  | acting s act =>
    obtain ⟨h₁, h₂, h₃⟩ := h.connected.session (s := s) (by rw [hc]; rfl)
    have hd := record_act (s := s) act a
    rw [hc] at hf ⊢
    refine sound_of_exchanged (exchanged_acting request h₁ act a) hf hr ?_ ?_
    · rw [openings_append, hd.1, h₂, List.append_nil]
    · rw [closings_append, hd.2, h₃, List.append_nil]
  | connecting =>
    obtain ⟨h₁, h₂⟩ := h.connected.unconnected (by rw [hc]; rfl) (by simp [hc])
    cases a with
    | connected k =>
      rw [hc] at hf ⊢
      refine sound_of_exchanged (exchanged_connected request k) hf hr ?_ ?_
      · rw [openings_append, h₁]
        rfl
      · rw [closings_append, h₂]
        rfl
    | failed reason =>
      have hn : c.stage.next codec peer t (.answer (.failed reason)) =
          ⟨.ended, t.told (.failed (.connectFailed peer.address.text reason)),
            [.refused peer.address]⟩ := by rw [hc]; rfl
      rw [hn]
      refine ⟨trivial, .unopened rfl ?_ ?_, ?_⟩
      · rw [Turn.followedBy, openings_append, h₁]
        rfl
      · rw [Turn.followedBy, closings_append, h₂]
        rfl
      · simpa [Turn.Replied, Turn.followedBy, hr] using answered_failed _
    | accepted | done | delivered => exact h.idle (by rw [hc]; rfl)

theorem Turn.Connected.kept {s' : Session} (h : c.Connected) (hs : c.stage.session? = some s)
    (hn : n.stage.session? = some s') (hk : s.IsSame s') (ho : openings n.traffic = [])
    (hc : closings n.traffic = []) : (c.followedBy n).Connected := by
  obtain ⟨h₁, h₂, h₃⟩ := h.session hs
  refine .opened s' hn (hk.2.trans h₁) ?_ ?_
  · rw [Turn.followedBy, openings_append, h₂, ho, hk.1, List.append_nil]
  · rw [Turn.followedBy, closings_append, h₃, hc, List.append_nil]

theorem Turn.Connected.closes (h : c.Connected) (hs : c.stage.session? = some s)
    (replies : List Reply) :
    (c.followedBy ⟨.ended, replies, SpaceGateway.traffic s.close.2⟩).Connected := by
  obtain ⟨h₁, h₂, h₃⟩ := h.session hs
  have hc := Session.traffic_close h₁
  refine .closed s.conn rfl ?_ ?_
  · rw [Turn.followedBy, openings_append, h₂, hc]
    rfl
  · rw [Turn.followedBy, closings_append, h₃, hc]
    rfl

/-- What a message or a failure means to a poll: a change, or the end. -/
theorem noticed_cases (space sub : String) (s : Session) (r : Except Error Message) :
    (∃ n, Notice.isLast n = true ∧
      Stage.noticed t space sub s r = ⟨.closing sub n .looking s, [], []⟩) ∨
    ∃ reply, Reply.IsChange t.access sub reply ∧
      Stage.noticed t space sub s r = ⟨.polling sub .looking s, [reply], []⟩ := by
  simp only [Stage.noticed]
  generalize Notice.ofResult (r.bind (Notice.classify t.node space sub)) = n
  cases n with
  | indication k a d => exact .inr ⟨_, ⟨k, a, d, rfl⟩, rfl⟩
  | ended status => exact .inl ⟨_, rfl, rfl⟩
  | failed e => exact .inl ⟨_, rfl, rfl⟩

theorem sound_noticed {sub : String} {post : Post} {s' : Session} {tr : List Traffic} (h : c.Sound t)
    (hc : c.stage = .polling sub post s) (hs : s.IsSame s') (space : String)
    (r : Except Error Message) (ho : openings tr = []) (hl : closings tr = []) :
    (c.followedBy { Stage.noticed t space sub s' r with traffic := tr }).Sound t := by
  have hsess : c.stage.session? = some s := by rw [hc]; rfl
  have hop : t.operation.IsSubscribe := by simpa [hc, Stage.Fits] using h.fits
  have hr : Subscribed t.access sub c.replies := by simpa [Turn.Replied, hc] using h.replied
  rcases @noticed_cases t space sub s' r with ⟨n, hn, he⟩ | ⟨reply, hch, he⟩
  · rw [he]
    refine ⟨⟨hop, hn⟩, h.connected.kept hsess rfl hs ho hl, ?_⟩
    simpa [Turn.Replied, Turn.followedBy] using hr
  · rw [he]
    refine ⟨hop, h.connected.kept hsess rfl hs ho hl, ?_⟩
    obtain ⟨results, changes, he, hall⟩ := hr
    refine ⟨results, changes ++ [reply], ?_, ?_⟩
    · simp [Turn.followedBy, he]
    · intro x hx
      rcases List.mem_append.1 hx with hx | hx
      · exact hall x hx
      · rw [List.mem_singleton.1 hx]
        exact hch

theorem sound_progressed {sub : String} {post : Post} {tr : List Traffic} (h : c.Sound t)
    (hc : c.stage = .polling sub post s) (space : String) (p : Session.Progress)
    (hs : s.IsSame p.session) (ho : openings tr = []) (hl : closings tr = []) :
    (c.followedBy { Stage.progressed t space sub p with traffic := tr }).Sound t := by
  cases p with
  | busy s' a =>
    have hop : t.operation.IsSubscribe := by simpa [hc, Stage.Fits] using h.fits
    have hr : Subscribed t.access sub c.replies := by simpa [Turn.Replied, hc] using h.replied
    refine ⟨hop, h.connected.kept (by rw [hc]; rfl) rfl hs ho hl, ?_⟩
    simpa [Turn.Replied, Turn.followedBy, Stage.progressed] using hr
  | sent s' | finished s' => exact sound_noticed h hc hs space _ ho hl
  | received s' m => exact sound_noticed h hc hs space (.ok m) ho hl
  | failed s' e => exact sound_noticed h hc hs space (.error e) ho hl

theorem heard_last {subscription : String} {x : Notice} (h : x.isLast = true) :
    ∃ o, t.heard subscription x = .unsubscribed t.access o subscription := by
  cases x with
  | indication => cases h
  | ended status => exact ⟨_, rfl⟩
  | failed e => exact ⟨_, rfl⟩

theorem sound_polling {sub : String} {post : Post} (h : c.Sound t)
    (hc : c.stage = .polling sub post s) (i : Input) :
    (c.followedBy (c.stage.next codec peer t i)).Sound t := by
  have hop : t.operation.IsSubscribe := by simpa [hc, Stage.Fits] using h.fits
  have hr : Subscribed t.access sub c.replies := by simpa [Turn.Replied, hc] using h.replied
  have hsess : c.stage.session? = some s := by rw [hc]; rfl
  have moves (post' : Post) : (c.followedBy ⟨.polling sub post' s, [], []⟩).Sound t := by
    refine ⟨hop, h.connected.kept hsess rfl ⟨rfl, rfl⟩ rfl rfl, ?_⟩
    simpa [Turn.Replied, Turn.followedBy] using hr
  cases i with
  | step free =>
    cases post with
    | looking => rw [hc]; exact moves _
    | approaching => rw [hc]; exact moves _
    | waiting =>
      have hs := @Session.isSame_receive codec.parser s
      have hp := sound_progressed h hc peer.space (s.receive codec.parser).1 hs
        (rfl : openings [] = []) (rfl : closings [] = [])
      have ht := @progressed_traffic t sub peer.space (s.receive codec.parser).1
      rw [hc]
      simpa [Stage.next, ← ht] using hp
    | acting act => exact h.idle (by rw [hc]; rfl)
  | answer a =>
    cases post with
    | looking | approaching | waiting => exact h.idle (by rw [hc]; rfl)
    | acting act =>
      have hs := @Session.isSame_resume codec.parser s act a
      have hd := record_act (s := s) act a
      rw [hc]
      exact sound_progressed h hc peer.space _ hs hd.1 hd.2

theorem sound_closing {sub : String} {x : Notice} {post : Post} (h : c.Sound t)
    (hc : c.stage = .closing sub x post s) (i : Input) :
    (c.followedBy (c.stage.next codec peer t i)).Sound t := by
  have hf : t.operation.IsSubscribe ∧ x.isLast = true := by simpa [hc, Stage.Fits] using h.fits
  have hr : Subscribed t.access sub c.replies := by simpa [Turn.Replied, hc] using h.replied
  have hsess : c.stage.session? = some s := by rw [hc]; rfl
  have moves (post' : Post) : (c.followedBy ⟨.closing sub x post' s, [], []⟩).Sound t := by
    refine ⟨hf, h.connected.kept hsess rfl ⟨rfl, rfl⟩ rfl rfl, ?_⟩
    simpa [Turn.Replied, Turn.followedBy] using hr
  cases i with
  | answer a => exact h.idle (by rw [hc]; cases post <;> rfl)
  | step free =>
    cases post with
    | looking => rw [hc]; exact moves _
    | approaching => rw [hc]; exact moves _
    | acting act => exact h.idle (by rw [hc]; rfl)
    | waiting =>
      obtain ⟨o, ho⟩ := @heard_last t sub x hf.2
      rw [hc]
      refine ⟨trivial, h.connected.closes hsess _, ?_⟩
      simpa [Turn.Replied, Turn.followedBy, Stage.next, ho] using hr.answered hf.1

theorem sound_registering {m : Message} {sub : String} (h : c.Sound t)
    (hc : c.stage = .calling (.registering m sub s)) (i : Input) :
    (c.followedBy (c.stage.next codec peer t i)).Sound t := by
  have hf : t.operation.IsSubscribe ∧ m.subscription = some sub := by
    simpa [hc, Stage.Fits] using h.fits
  have hr : c.replies = [] := by simpa [Turn.Replied, hc] using h.replied
  have hsess : c.stage.session? = some s := by rw [hc]; rfl
  cases i with
  | answer a => exact h.idle (by rw [hc]; rfl)
  | step free =>
    cases free with
    | false =>
      rw [hc]
      refine ⟨trivial, h.connected.closes hsess _, ?_⟩
      simpa [Turn.Replied, Turn.followedBy, Stage.next, hr] using answered_failed _
    | true =>
      rw [hc]
      refine ⟨hf.1, h.connected.kept hsess rfl ⟨rfl, rfl⟩ rfl rfl, m.payload.getD "", [], ?_, ?_⟩
      · simp [Turn.followedBy, Stage.next, hr, told_subscribed hf.1, hf.2]
      · simp

theorem sound_queued (h : c.Sound t) (hc : c.stage = .queued) (i : Input) :
    (c.followedBy (c.stage.next codec peer t i)).Sound t := by
  have hr : c.replies = [] := by simpa [Turn.Replied, hc] using h.replied
  obtain ⟨h₁, h₂⟩ := h.connected.unconnected (by rw [hc]; rfl) (by simp [hc])
  cases i with
  | answer a => exact h.idle (by rw [hc]; rfl)
  | step free =>
    rw [hc]
    simp only [Stage.next, Call.ofCommand_command]
    cases codec.build (t.request peer.space) with simp only [Except.map]
    | ok b =>
      refine ⟨rfl, .unopened rfl ?_ ?_, ?_⟩
      · simpa [Turn.followedBy] using h₁
      · simpa [Turn.followedBy] using h₂
      · simpa [Turn.Replied, Turn.followedBy] using hr
    | error f =>
      refine ⟨trivial, .unopened rfl ?_ ?_, ?_⟩
      · simpa [Turn.followedBy] using h₁
      · simpa [Turn.followedBy] using h₂
      · simpa [Turn.Replied, Turn.followedBy, hr] using answered_failed _

/-- Whatever moves a task on, it stays in order. -/
theorem sound_next (h : c.Sound t) (i : Input) :
    (c.followedBy (c.stage.next codec peer t i)).Sound t := by
  cases hc : c.stage with
  | queued => rw [← hc]; exact sound_queued h hc i
  | ended => exact h.idle (by rw [hc]; rfl)
  | polling sub post s => rw [← hc]; exact sound_polling h hc i
  | closing sub x post s => rw [← hc]; exact sound_closing h hc i
  | calling call =>
    rw [← hc]
    have hf := h.fits
    rw [hc] at hf
    cases call with
    | registering m sub s => exact sound_registering h hc i
    | exchanging aim request x =>
      cases hf
      cases i with
      | answer a => exact sound_exchanging hc h a
      | step free => exact h.idle (by rw [hc]; rfl)
    | _ => exact hf.elim

theorem course_sound (inputs : List Input) : (course codec peer t inputs).Sound t := by
  induction inputs using List.reverseRecOn with
  | nil => exact ⟨trivial, .unopened rfl rfl rfl, rfl⟩
  | append_singleton inputs i ih =>
    rw [course_snoc]
    exact sound_next ih i

theorem Task.Exchanged.openings {request : Bytes} {k : ConnId} {pre : List Traffic}
    (h : t.Exchanged request k pre n) :
    SpaceGateway.openings n.traffic = SpaceGateway.openings pre := by
  cases h with
  | acting | registering => rfl
  | ended replies => exact (openings_append).trans (List.append_nil _)

theorem openings_close : openings (traffic s.close.2) = [] := by
  unfold Session.close
  split <;> rfl

theorem exchanging_openings {request : Bytes} {x : Exchange} {a : Answer} {k : ConnId}
    (hc : c.stage = .calling (.exchanging t.aim request x)) (h : c.Sound t)
    (hk : k ∈ openings (c.stage.next codec peer t (.answer a)).traffic) : a = .connected k := by
  rw [hc] at hk
  cases x with
  | acting s act =>
    obtain ⟨h₁, -⟩ := h.connected.session (s := s) (by rw [hc]; rfl)
    rw [(exchanged_acting request h₁ act a).openings, (record_act act a).1] at hk
    cases hk
  | connecting =>
    cases a with
    | connected k' =>
      rw [(exchanged_connected request k').openings] at hk
      rw [List.mem_singleton.1 hk]
    | failed | accepted | done | delivered => cases hk

/-- A connection opens only with an answer that says so. -/
theorem next_openings (h : c.Sound t) {i : Input} {k : ConnId}
    (hk : k ∈ openings (c.stage.next codec peer t i).traffic) : i = .answer (.connected k) := by
  cases hc : c.stage with
  | queued =>
    rw [hc] at hk
    cases i with
    | answer => cases hk
    | step free =>
      simp only [Stage.next] at hk
      split at hk <;> cases hk
  | ended => rw [hc] at hk; cases hk
  | polling sub post s =>
    rw [hc] at hk
    cases i <;> cases post with simp only [Stage.next] at hk
    | looking | approaching => cases hk
    | waiting => first | cases hk | (rw [progressed_traffic] at hk; cases hk)
    | acting act => first | cases hk | (rw [(record_act act _).1] at hk; cases hk)
  | closing sub x post s =>
    rw [hc] at hk
    cases i <;> cases post with simp only [Stage.next] at hk
    | waiting => first | cases hk | (rw [openings_close] at hk; cases hk)
    | _ => cases hk
  | calling call =>
    have hf := h.fits
    rw [hc] at hf
    cases call with
    | registering m sub s =>
      rw [hc] at hk
      cases i with
      | answer a => cases hk
      | step free =>
        cases free with
        | true => cases hk
        | false => simp only [Stage.next] at hk; rw [if_neg (by simp), openings_close] at hk; cases hk
    | exchanging aim request x =>
      cases hf
      cases i with
      | answer a => rw [exchanging_openings hc h hk]
      | step free => rw [hc] at hk; cases hk
    | _ => exact hf.elim

theorem Turn.Connected.openings_le (h : c.Connected) : (openings c.traffic).length ≤ 1 := by
  cases h with
  | unopened _ h => simp [h]
  | opened s _ _ h => simp [h]
  | closed k _ h => simp [h]

theorem Turn.Connected.nodup (h : c.Connected) :
    (openings c.traffic).Nodup ∧ (closings c.traffic).Nodup := by
  cases h with
  | unopened _ h₁ h₂ => simp [h₁, h₂]
  | opened s _ _ h₁ h₂ => simp [h₁, h₂]
  | closed k _ h₁ h₂ => simp [h₁, h₂]

theorem Turn.Connected.closings_subset (h : c.Connected) :
    closings c.traffic ⊆ openings c.traffic := by
  cases h with
  | unopened _ h₁ h₂ => simp [h₂]
  | opened s _ _ h₁ h₂ => simp [h₂]
  | closed k _ h₁ h₂ => simp [h₁, h₂]

/-- When a task is over it has given up what it has opened. -/
theorem Turn.Connected.closings_eq (h : c.Connected) (ho : c.stage = .ended) :
    closings c.traffic = openings c.traffic := by
  cases h with
  | unopened _ h₁ h₂ => rw [h₁, h₂]
  | opened s hs => rw [ho] at hs; cases hs
  | closed k _ h₁ h₂ => rw [h₁, h₂]

end Sound
end SpaceGateway
