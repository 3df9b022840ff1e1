import SpaceGateway.Proofs.Ownership
import SpaceGateway.Proofs.Spellings
/-!
What a poll for one notice does to the client. It looks a session up, and uses that session and no
other. But after the last notice it is the id that it takes out of the table, and the session that is
then closed is the one that it finds there: the one that it has used, or one that was entered under the
same id since.
-/
namespace SpaceGateway

namespace Client
variable {c c' c'' : Client} {id j : SessionId} {id? : Option SessionId} {k : CallId} {s : Session}
variable {ev : List Event} {sub : String} {f : Shared → Shared} {conn : ConnId}

/-- The connection of a shared session. -/
def conn? (c : Client) (id : SessionId) : Option ConnId := (c.session? id).map (·.conn)

/-- Whether what happens to a client concerns this session at most: no entry of another one comes or
goes, no other one changes, and no other connection is given up. -/
structure Concerns (c c' : Client) (ev : List Event) (id? : Option SessionId) : Prop where
  table : ∀ e, id? ≠ some e.2 → (e ∈ c'.subscriptions ↔ e ∈ c.subscriptions)
  sessions : ∀ j, id? ≠ some j → c'.session? j = c.session? j
  closed : ∀ conn ∈ closings (traffic ev), id?.bind c.conn? = some conn

/-- What the use of a session changes: the session, but not its connection. -/
structure Alters (c : Client) (id : SessionId) (c' : Client) : Prop where
  table : c'.subscriptions = c.subscriptions
  others : ∀ j, id ≠ j → c'.session? j = c.session? j
  conn : c'.conn? id = c.conn? id

theorem Alters.refl : c.Alters id c := ⟨rfl, fun _ _ => rfl, rfl⟩

theorem Alters.trans (h : c.Alters id c') (h' : c'.Alters id c'') : c.Alters id c'' :=
  ⟨h'.table.trans h.table, fun j hj => (h'.others j hj).trans (h.others j hj), h'.conn.trans h.conn⟩

theorem Alters.concerns (h : c.Alters id c')
    (hev : ∀ conn ∈ closings (traffic ev), c.conn? id = some conn) :
    c.Concerns c' ev (some id) := by
  refine ⟨fun e _ => by rw [h.table], fun j hj => h.others j fun he => hj (he ▸ rfl), ?_⟩
  exact hev

theorem concerns_same (hev : closings (traffic ev) = []) : c.Concerns c ev id? :=
  ⟨fun _ _ => Iff.rfl, fun _ _ => rfl, fun conn h => by simp [hev] at h⟩

/-- What concerns no session concerns any one at most. -/
theorem Concerns.widen (h : c.Concerns c' ev none) : c.Concerns c' ev id? := by
  refine ⟨fun e _ => h.table e nofun, fun j _ => h.sessions j nofun, fun conn hconn => ?_⟩
  cases h.closed conn hconn

theorem alters_modify
    (hf : ∀ x, c.sessions[id]? = some x → (f x).session.conn = x.session.conn) :
    c.Alters id (c.modify id f) := by
  refine ⟨rfl, fun j hj => by simp [session?, modify, hj], ?_⟩
  cases hx : c.sessions[id]? with
  | none => simp [conn?, session?, modify, hx]
  | some x => simp [conn?, session?, modify, hx, hf x hx]

theorem alters_hold : c.Alters id (c.hold id) := alters_modify fun _ _ => rfl

theorem alters_join : c.Alters id (c.join id k) := alters_modify fun _ _ => rfl

theorem alters_put (h : c.conn? id = some s.conn) : c.Alters id (c.put id s) := by
  refine alters_modify fun x hx => ?_
  simpa [conn?, session?, hx, eq_comm] using h

theorem conn_abandon (s : Session) : s.abandon.1.conn = s.conn := by
  unfold Session.abandon
  split <;> rfl

theorem closings_abandon (h : conn ∈ closings (traffic s.abandon.2)) : s.conn = conn := by
  unfold Session.abandon at h
  split at h
  · exact (List.mem_singleton.1 h).symm
  · cases h

/-- Letting go of a session gives up no connection but its own. -/
theorem alters_letGo : c.Alters id (c.letGo id).1 ∧
    ∀ conn ∈ closings (traffic (c.letGo id).2), c.conn? id = some conn := by
  unfold letGo
  cases hx : c.sessions[id]? with
  | none => exact ⟨.refl, by simp [closings]⟩
  | some x =>
    dsimp only
    split
    · refine ⟨alters_modify fun y hy => ?_, fun conn h => ?_⟩
      · obtain rfl := Option.some.inj (hx.symm.trans hy)
        exact conn_abandon _
      · simp [conn?, session?, hx, closings_abandon h]
    · exact ⟨alters_modify fun _ _ => rfl, by simp [closings]⟩

theorem alters_leave : c.Alters id (c.leave id k).1 ∧
    ∀ conn ∈ closings (traffic (c.leave id k).2), c.conn? id = some conn := by
  have herase : c.Alters id (c.modify id fun x => { x with line := x.line.erase k }) :=
    alters_modify fun _ _ => rfl
  obtain ⟨halters, hclosed⟩ :=
    @alters_letGo (c.modify id fun x => { x with line := x.line.erase k }) id
  exact ⟨herase.trans halters, fun conn h => herase.conn ▸ hclosed conn h⟩

/-- Taking an id out of the table concerns the session that was found under it. -/
theorem concerns_unlink (hk : c.HasKeys) (h : c.unlink? sub = some (id, c')) :
    c.find? sub = some id ∧ c.Concerns c' [] (some id) := by
  obtain ⟨_, hfind, he⟩ := Option.map_eq_some_iff.1 h
  cases he
  refine ⟨hfind, fun e he => ?_, fun _ _ => rfl, by simp [closings]⟩
  simp only [List.mem_filter, bne_iff_ne, ne_eq, and_iff_left_iff_imp]
  rintro hmem rfl
  exact he (hfind.symm.trans ((find?_iff hk).2 hmem))

/-- A move does not put one session in the place of another. -/
theorem Edits.find?_eq (h : c.Edits c') (hk : c.HasKeys) (hk' : c'.HasKeys)
    (hi : c.find? sub = some id) (hj : c'.find? sub = some j) : j = id := by
  have hmem := (find?_iff hk').1 hj
  have hstays (hmem : (sub, j) ∈ c.subscriptions) : j = id :=
    Option.some.inj (((find?_iff hk).2 hmem).symm.trans hi)
  cases h with
  | same frame =>
    have htable : c'.subscriptions = c.subscriptions := congrArg Prod.snd frame
    exact hstays (htable ▸ hmem)
  | drops t peer table =>
    rw [table] at hmem
    exact hstays (List.mem_of_mem_filter hmem)
  | enters t i free peer table =>
    rw [table] at hmem
    rcases List.mem_append.1 hmem with hmem | hmem
    · exact hstays hmem
    · obtain ⟨rfl, rfl⟩ := Prod.mk.inj (List.mem_singleton.1 hmem)
      simp [has, hi] at free

end Client

/-- The stages of a poll for one notice. -/
inductive Call.OfPoll (p : Poll) : Call → Prop
  | looking : OfPoll p (.looking p)
  | approaching (id) : OfPoll p (.approaching id (.poll p))
  | waiting (id) : OfPoll p (.waiting id (.poll p))
  | acting (id a) : OfPoll p (.acting id (.poll p) a)
  | removing (n) : OfPoll p (.removing p.subscription (.notify p n))
  | retiring (id n) : OfPoll p (.approaching id (.retire p.subscription (.notify p n)))
  | queueing (id n) : OfPoll p (.waiting id (.retire p.subscription (.notify p n)))

def CallStatus.OfPoll (p : Poll) : CallStatus → Prop
  | going call => call.OfPoll p
  | done _ => True

/-- The session that a call knows of. -/
def Call.session? : Call → Option SessionId
  | approaching id _ | waiting id _ | acting id _ _ => some id
  | _ => none

def CallStatus.session? : CallStatus → Option SessionId
  | going call => call.session?
  | done _ => none

/-- The session that a poll concerns: the one that it knows of, or the one that it finds in the table. -/
def Call.about? (c : Client) (subscription : String) (call : Call) : Option SessionId :=
  call.session?.or (c.find? subscription)

/-- What a step of a poll comes to that concerns this session at most. -/
structure Step.IsOfPoll (p : Poll) (c : Client) (id? : Option SessionId) (s : Step) : Prop where
  goes : s.status.OfPoll p
  concerns : c.Concerns s.client s.events id?
  knows : ∀ j, s.status.session? = some j → id? = some j

section Polls
variable {parser : Parser} {c : Client} {k : CallId} {id : SessionId} {s s' : Session} {p : Poll}
variable {call : Call} {n : Notice} {ev : List Event}

theorem notify_done (hp : p.endless = false) (n : Notice) :
    Call.notify p n = (.done (.notice n), []) := by
  simp [Call.notify, hp]

/-- After a notice a poll returns it, but after the last one it first removes the subscription. -/
theorem polled_ofPoll (hp : p.endless = false) (space : String) (r : Except Error Message) :
    (Call.polled space p r).1.OfPoll p ∧ (Call.polled space p r).1.session? = none ∧
      traffic (Call.polled space p r).2 = [] := by
  simp only [Call.polled, Call.noted, notify_done hp]
  split <;> split <;> simp [CallStatus.OfPoll, CallStatus.session?, Call.session?, Call.OfPoll.removing]

theorem Step.IsOfPoll.after {id? : Option SessionId} {x : Step} (h : x.IsOfPoll p c id?)
    (hev : ∀ conn ∈ closings (traffic ev), id?.bind c.conn? = some conn) :
    (x.after ev).IsOfPoll p c id? := by
  refine ⟨h.goes, ⟨h.concerns.table, h.concerns.sessions, fun conn hconn => ?_⟩, h.knows⟩
  simp only [Step.after, traffic_append, closings_append, List.mem_append] at hconn
  exact hconn.elim (hev conn) (h.concerns.closed conn)

/-- The end of an errand concerns the session that it was about. -/
theorem concerns_conclude {e : Errand} {r : Except Error (Option Message)}
    (hs : c.conn? id = some s.conn) (hev : traffic (Call.outcome c.peer.space e r).2 = []) :
    c.Concerns (Call.conclude c k id e s r).client (Call.conclude c k id e s r).events (some id) := by
  have hput := Client.alters_put hs
  obtain ⟨hleave, hclosed⟩ := @Client.alters_leave (c.put id s) id k
  refine (hput.trans hleave).concerns fun conn hconn => ?_
  have hpeer : ((c.put id s).leave id k).1.peer = c.peer :=
    congrArg Prod.fst (Client.frame_leave.trans Client.frame_put)
  simp only [Call.conclude, hpeer, traffic_append, hev, List.append_nil] at hconn
  exact hput.conn ▸ hclosed conn hconn

theorem conclude_ofPoll (hp : p.endless = false) (hs : c.conn? id = some s.conn)
    (r : Except Error (Option Message)) :
    (Call.conclude c k id (.poll p) s r).IsOfPoll p c (some id) := by
  obtain ⟨-, -, hev⟩ := polled_ofPoll hp c.peer.space (r.bind fun m => m.elim (.error .peerClosed) .ok)
  obtain ⟨hgoes, hknows, -⟩ := polled_ofPoll hp ((c.put id s).leave id k).1.peer.space
    (r.bind fun m => m.elim (.error .peerClosed) .ok)
  refine ⟨hgoes, concerns_conclude hs hev, fun j hj => ?_⟩
  cases hknows.symm.trans hj

theorem proceed_ofPoll (hp : p.endless = false) {q : Session.Progress}
    (hs : c.conn? id = some q.session.conn) :
    (Call.proceed c k id (.poll p) q).IsOfPoll p c (some id) := by
  cases q with
  | busy s a =>
    refine ⟨.acting id a, ?_, fun j hj => hj⟩
    exact (Client.alters_put hs).concerns (by simp [Call.proceed, closings])
  | sent s => exact conclude_ofPoll hp hs (.ok none)
  | finished s => exact conclude_ofPoll hp hs (.ok none)
  | received s m => exact conclude_ofPoll hp hs (.ok (some m))
  | failed s e => exact conclude_ofPoll hp hs (.error e)

theorem closings_close {conn : ConnId} (h : conn ∈ closings (traffic s.close.2)) :
    s.conn = conn := by
  unfold Session.close at h
  split at h
  · exact (List.mem_singleton.1 h).symm
  · cases h

theorem conn_close (s : Session) : s.close.1.conn = s.conn := by
  unfold Session.close
  split <;> rfl

/-- When the session is closed whose subscription was removed, the poll returns its notice. -/
theorem retire_ofPoll (hp : p.endless = false) (hs : c.conn? id = some s.conn) :
    (Call.embark parser c k id s (.retire p.subscription (.notify p n))).IsOfPoll p c (some id) := by
  have hsaid (space : String) (r : Except Error (Option Message)) :
      Call.outcome space (.retire p.subscription (.notify p n)) r = (.done (.notice n), []) := by
    simp [Call.outcome, Call.afterwards, notify_done hp]
  have hconn : c.conn? id = some s.close.1.conn := (conn_close s).symm ▸ hs
  have hcloses : (Call.conclude c k id (.retire p.subscription (.notify p n)) s.close.1
      (.ok none)).IsOfPoll p c (some id) := by
    refine ⟨?_, concerns_conclude hconn (by simp [hsaid]), ?_⟩ <;>
      simp [Call.conclude, hsaid, CallStatus.OfPoll, CallStatus.session?]
  refine hcloses.after fun conn hconn => ?_
  simp only [traffic_append, traffic_log_cons, traffic_nil, List.append_nil] at hconn
  exact hs.trans (congrArg some (closings_close hconn))

theorem Call.OfPoll.stays (h : call.OfPoll p) :
    Step.IsOfPoll p c (call.about? c p.subscription) ⟨c, .going call, []⟩ := by
  refine ⟨h, Client.concerns_same rfl, fun j hj => ?_⟩
  have hj : call.session? = some j := hj
  simp [about?, hj]

/-- A step of a poll concerns at most the session that it knows of, or finds in the table. -/
theorem Call.OfPoll.step (h : call.OfPoll p) (hp : p.endless = false) (hk : c.HasKeys) :
    (call.step parser c k).IsOfPoll p c (call.about? c p.subscription) := by
  cases h with
  | looking =>
    cases hf : c.find? p.subscription with
    | some id =>
      simp only [Call.step, about?, Call.session?, hf, Option.none_or]
      exact ⟨.approaching id, Client.alters_hold.concerns (by simp [closings]), fun j hj => hj⟩
    | none =>
      simp only [Call.step, about?, Call.session?, hf, Option.none_or, notify_done hp]
      exact ⟨trivial, Client.concerns_same rfl, by simp [CallStatus.session?]⟩
  | approaching id =>
    exact ⟨.waiting id, Client.alters_join.concerns (by simp [closings, Call.step]), fun j hj => hj⟩
  | retiring id n =>
    exact ⟨.queueing id n, Client.alters_join.concerns (by simp [closings, Call.step]),
      fun j hj => hj⟩
  | removing n =>
    cases hu : c.unlink? p.subscription with
    | some u =>
      obtain ⟨id, c'⟩ := u
      obtain ⟨hf, hconcerns⟩ := Client.concerns_unlink hk hu
      simp only [Call.step, about?, Call.session?, hu, hf, Option.none_or]
      exact ⟨.retiring id n, hconcerns, fun j hj => hj⟩
    | none =>
      simp only [Call.step, hu, afterwards, notify_done hp]
      exact ⟨trivial, Client.concerns_same rfl, by simp [CallStatus.session?]⟩
  | waiting id =>
    cases hs : c.session? id with
    | none =>
      simp only [Call.step, hs]
      exact (Call.OfPoll.waiting id).stays
    | some s =>
      simp only [Call.step, hs]
      split
      · have hembark : embark parser c k id s (.poll p) =
            (proceed c k id (.poll p) (s.receive parser).1).after (s.receive parser).2 := rfl
        have hsame := @Session.isSame_receive parser s
        rw [hembark]
        refine (proceed_ofPoll hp ?_).after ?_
        · simp [Client.conn?, hs, hsame.1]
        · simp [closings]
      · exact (Call.OfPoll.waiting id).stays
  | queueing id n =>
    cases hs : c.session? id with
    | none =>
      simp only [Call.step, hs]
      exact (Call.OfPoll.queueing id n).stays
    | some s =>
      simp only [Call.step, hs]
      split
      · exact retire_ofPoll hp (by simp [Client.conn?, hs])
      · exact (Call.OfPoll.queueing id n).stays
  | acting id a => exact (Call.OfPoll.acting id a).stays

/-- So does an answer. -/
theorem Call.OfPoll.resume (h : call.OfPoll p) (hp : p.endless = false) (a : Answer) :
    (call.resume parser c k a).IsOfPoll p c (call.about? c p.subscription) := by
  cases h with
  | acting id act =>
    cases hs : c.session? id with
    | none =>
      simp only [Call.resume, hs]
      exact (Call.OfPoll.acting id act).stays
    | some s =>
      simp only [Call.resume, hs]
      have hsame := @Session.isSame_resume parser s act a
      refine (proceed_ofPoll hp ?_).after ?_
      · simp [Client.conn?, hs, hsame.1]
      · simp [(record_act act a).2]
  | looking => exact Call.OfPoll.looking.stays
  | approaching id => exact (Call.OfPoll.approaching id).stays
  | waiting id => exact (Call.OfPoll.waiting id).stays
  | removing n => exact (Call.OfPoll.removing n).stays
  | retiring id n => exact (Call.OfPoll.retiring id n).stays
  | queueing id n => exact (Call.OfPoll.queueing id n).stays

end Polls

namespace Desk

/-- Whether the deed concerns this session at most. -/
def Deed.Concerns (x : Deed) (id? : Option SessionId) : Prop := x.before.Concerns x.after x.seen id?

/-- Whether a session has come into the table under an id that was free, by one of these moves. -/
def Enters (d : Desk) (subscription : String) (id : SessionId) (moves : List Move) : Prop :=
  ∃ before mv after, moves = before ++ mv :: after ∧
    (d.moveAll before).client.find? subscription = none ∧
    (d.moveAll (before ++ [mv])).client.find? subscription = some id

/-- Whether a session is the one that was found under an id, or has come there since. -/
def Succeeds (d : Desk) (subscription : String) (id : SessionId) (moves : List Move)
    (j : SessionId) : Prop :=
  j = id ∨ d.Enters subscription j moves

/-- How a poll for one notice has come about: it has found no session, or it has found one, and what
it has done since concerns that, or one that has come in its place. -/
inductive Trails (d : Desk) (k : CallId) (p : Poll) : List Move → List Deed → CallStatus → Prop
  | seeking {moves l st} (idle : ∀ x ∈ l, x.Concerns none)
    (unknown : st = .going (.looking p) ∨ ∃ r, st = .done r) : Trails d k p moves l st
  | found {before after l st id} (looks : (d.moveAll before).Stands k (.going (.looking p)))
    (found : (d.moveAll before).client.find? p.subscription = some id) (goes : st.OfPoll p)
    (concerns : ∀ x ∈ l, ∃ j, x.Concerns (some j) ∧
      (d.moveAll before).Succeeds p.subscription id (.step k :: after) j)
    (knows : ∀ j, st.session? = some j →
      (d.moveAll before).Succeeds p.subscription id (.step k :: after) j) :
    Trails d k p (before ++ .step k :: after) l st

section Runs
variable {codec : Codec} {peer : Peer} {d : Desk} {k : CallId} {p : Poll} {node sub : String}
variable {id j : SessionId} {pre moves : List Move} {l : List Deed} {call : Call} {st : CallStatus}

theorem Reachable.hasKeys (h : Reachable codec peer d) : d.client.HasKeys := h.nodup

theorem Enters.snoc (h : d.Enters sub id moves) (mv : Move) : d.Enters sub id (moves ++ [mv]) := by
  obtain ⟨before, mv', after, rfl, hfree, hfound⟩ := h
  exact ⟨before, mv', after ++ [mv], by simp, hfree, hfound⟩

/-- What is found under an id was found there before, or has come there since. -/
theorem found_or_enters (h : Reachable codec peer d) (hi : d.client.find? sub = some id)
    (hj : (d.moveAll moves).client.find? sub = some j) : j = id ∨ d.Enters sub j moves := by
  induction moves using List.reverseRecOn generalizing j with
  | nil => exact .inl (Option.some.inj (hj.symm.trans hi))
  | append_singleton moves mv ih =>
    cases hf : (d.moveAll moves).client.find? sub with
    | none => exact .inr ⟨moves, mv, [], rfl, hf, hj⟩
    | some i =>
      have hreach := reachable_moveAll h moves
      rw [moveAll_append] at hj
      have hij : j = i := (edits_move _ mv).find?_eq hreach.hasKeys (hreach.moves mv).hasKeys hf hj
      subst hij
      exact (ih hf).imp_right fun henters => henters.snoc mv

theorem Succeeds.snoc (h : d.Succeeds sub id moves j) (mv : Move) :
    d.Succeeds sub id (moves ++ [mv]) j :=
  h.imp_right fun henters => henters.snoc mv

theorem Trails.others (h : d.Trails k p pre l st) (mv : Move) : d.Trails k p (pre ++ [mv]) l st := by
  cases h with
  | seeking idle unknown => exact .seeking idle unknown
  | found looks found goes concerns knows =>
    rw [List.append_assoc, List.cons_append]
    refine .found looks found goes (fun x hx => ?_) fun j hj => (knows j hj).snoc mv
    obtain ⟨j, hconcerns, hsucceeds⟩ := concerns x hx
    exact ⟨j, hconcerns, hsucceeds.snoc mv⟩

/-- The session that a poll is about is the one that it has found, or one that has come since. -/
theorem succeeds_about {before after : List Move} (h : Reachable codec peer d)
    (hfound : (d.moveAll before).client.find? sub = some id)
    (hknows : ∀ j, call.session? = some j →
      (d.moveAll before).Succeeds sub id (.step k :: after) j)
    (hj : call.about? (d.moveAll (before ++ .step k :: after)).client sub = some j) :
    (d.moveAll before).Succeeds sub id (.step k :: after) j := by
  rcases Option.or_eq_some_iff.1 hj with hcall | ⟨-, hfind⟩
  · exact hknows j hcall
  · rw [moveAll_append] at hfind
    exact found_or_enters (reachable_moveAll h before) hfound hfind

/-- What a poll does with a session it does to the one that it has found, or to one that has come in
its place. -/
theorem Trails.next {before after : List Move} {mv : Move}
    {said : Option (Demand × Answer)} {s : Step} (h : Reachable codec peer d)
    (looks : (d.moveAll before).Stands k (.going (.looking p)))
    (found : (d.moveAll before).client.find? p.subscription = some id)
    (concerns : ∀ x ∈ l, ∃ j, x.Concerns (some j) ∧
      (d.moveAll before).Succeeds p.subscription id (.step k :: after) j)
    (knows : ∀ j, call.session? = some j →
      (d.moveAll before).Succeeds p.subscription id (.step k :: after) j)
    (hs : s.IsOfPoll p (d.moveAll (before ++ .step k :: after)).client
      (call.about? (d.moveAll (before ++ .step k :: after)).client p.subscription)) :
    d.Trails k p (before ++ .step k :: after ++ [mv])
      (l ++ [.ofStep (d.moveAll (before ++ .step k :: after)).client said s]) s.status := by
  have habout j (hj : call.about? (d.moveAll (before ++ .step k :: after)).client p.subscription =
      some j) := (succeeds_about h found knows hj).snoc mv
  rw [List.append_assoc, List.cons_append]
  refine .found looks found hs.goes (fun x hx => ?_) fun j hj => habout j (hs.knows j hj)
  rcases List.mem_append.1 hx with hx | hx
  · obtain ⟨j, hconcerns, hsucceeds⟩ := concerns x hx
    exact ⟨j, hconcerns, hsucceeds.snoc mv⟩
  · obtain rfl := List.mem_singleton.1 hx
    have hconcerns := hs.concerns
    cases ha : call.about? (d.moveAll (before ++ .step k :: after)).client p.subscription with
    | none =>
      rw [ha] at hconcerns
      exact ⟨id, hconcerns.widen, .inl rfl⟩
    | some j =>
      rw [ha] at hconcerns
      exact ⟨j, hconcerns, habout j ha⟩

/-- A poll looks its subscription up. -/
theorem trails_looking (hp : p.endless = false) (hk : (d.moveAll pre).client.HasKeys)
    (hst : (d.moveAll pre).Stands k (.going (.looking p))) (hidle : ∀ x ∈ l, x.Concerns none) :
    let s := (Call.looking p).step d.codec.parser (d.moveAll pre).client k
    d.Trails k p (pre ++ [.step k])
      (l ++ [.ofStep (d.moveAll pre).client none s]) s.status := by
  intro s
  have hs : s.IsOfPoll p (d.moveAll pre).client
      ((Call.looking p).about? (d.moveAll pre).client p.subscription) := Call.OfPoll.looking.step hp hk
  cases hf : (d.moveAll pre).client.find? p.subscription with
  | none =>
    have hnone : (Call.looking p).about? (d.moveAll pre).client p.subscription = none := hf
    rw [hnone] at hs
    refine .seeking (List.forall_mem_append.2 ⟨hidle, List.forall_mem_singleton.2 hs.concerns⟩)
      (.inr ?_)
    simp [s, Call.step, hf, notify_done hp]
  | some id =>
    have hsome : (Call.looking p).about? (d.moveAll pre).client p.subscription = some id := hf
    rw [hsome] at hs
    refine .found hst hf hs.goes (fun x hx => ?_) fun j hj => ?_
    · refine ⟨id, ?_, .inl rfl⟩
      rcases List.mem_append.1 hx with hx | hx
      · exact (hidle x hx).widen
      · exact List.mem_singleton.1 hx ▸ hs.concerns
    · exact .inl (Option.some.inj (hs.knows j hj)).symm

theorem Makes.trails (h : Reachable codec peer d) (hm : d.Makes k (.next node sub) moves) :
    ∃ st, d.Trails k ⟨node, sub, false⟩ moves (d.deeds k moves) st ∧
      (d.moveAll moves).Stands k st := by
  have hkeys (pre : List Move) : (d.moveAll pre).client.HasKeys :=
    (reachable_moveAll h pre).hasKeys
  refine hm.induction rfl ?_ ?_ ?_ fun _ _ _ mv hP => hP.others mv
  · intro pre
    exact .seeking (List.forall_mem_singleton.2 (Client.concerns_same rfl)) (.inl rfl)
  · intro pre l call hst hP
    cases hP with
    | seeking idle unknown =>
      rcases unknown with hcall | ⟨r, hdone⟩
      · cases hcall
        exact trails_looking rfl (hkeys pre) hst idle
      · cases hdone
    | found looks found goes concerns knows =>
      exact Trails.next h looks found concerns knows (goes.step rfl (hkeys _))
  · intro pre l call a hst hP
    cases hP with
    | seeking idle unknown =>
      rcases unknown with hcall | ⟨r, hdone⟩
      · cases hcall
        refine .seeking (List.forall_mem_append.2 ⟨idle, ?_⟩) (.inl rfl)
        exact List.forall_mem_singleton.2 (Client.concerns_same rfl)
      · cases hdone
    | found looks found goes concerns knows =>
      exact Trails.next h looks found concerns knows (goes.resume rfl a)

/-- In every run of a client, a poll for one notice either finds no session and does nothing, or it
finds one, and all that it does concerns this session, or one that has come into the table under the
same id since the poll has looked there. -/
theorem poll_ends_own_or_successor (h : Reachable codec peer d)
    (hm : d.Makes k (.next node sub) moves) :
    (∀ x ∈ d.deeds k moves, x.Concerns none) ∨
      ∃ before after id, moves = before ++ .step k :: after ∧
        (d.moveAll before).Stands k (.going (.looking ⟨node, sub, false⟩)) ∧
        (d.moveAll before).client.find? sub = some id ∧
        ∀ x ∈ d.deeds k moves, ∃ j, x.Concerns (some j) ∧
          (d.moveAll before).Succeeds sub id (.step k :: after) j := by
  obtain ⟨st, htrails, -⟩ := hm.trails h
  generalize d.deeds k moves = l at htrails ⊢
  cases htrails with
  | seeking idle => exact .inl idle
  | found looks found goes concerns => exact .inr ⟨_, _, _, rfl, looks, found, concerns⟩

/-- Two polls wait for one subscription. While the first is about to close the session, the id is
entered for another one; then the second poll comes to the end of the stream. -/
def lateEnding : List Move :=
  subscribing 0 0 0 ++ [.start 1 (.next "node" "s"), .start 2 (.next "node" "s"), .step 1] ++
    .step 2 :: ([.step 1, .step 2, .step 1, .resume 1 (.delivered [0]), .step 1] ++
      subscribing 3 1 0 ++ [.step 2, .resume 2 (.delivered []), .step 2, .step 2, .step 2])

def lateDesk : Desk := opening (spelling "s" "s") ⟨"space", ⟨"host", 1⟩, 64⟩

theorem poll_ends_own_or_successor_of_late_ending :
    Reachable (spelling "s" "s") ⟨"space", ⟨"host", 1⟩, 64⟩ lateDesk ∧
      lateDesk.Makes 2 (.next "node" "s") lateEnding ∧
      ((∀ x ∈ lateDesk.deeds 2 lateEnding, x.Concerns none) ∨
        ∃ before after id, lateEnding = before ++ .step 2 :: after ∧
          (lateDesk.moveAll before).Stands 2 (.going (.looking ⟨"node", "s", false⟩)) ∧
          (lateDesk.moveAll before).client.find? "s" = some id ∧
          ∀ x ∈ lateDesk.deeds 2 lateEnding, ∃ j, x.Concerns (some j) ∧
            (lateDesk.moveAll before).Succeeds "s" id (.step 2 :: after) j) := by
  have hmakes : lateDesk.Makes 2 (.next "node" "s") lateEnding := .of_opening rfl
  exact ⟨.opens, hmakes, poll_ends_own_or_successor .opens hmakes⟩

/-- A poll may end a session that it has never used. -/
theorem poll_ends_successor :
    ¬ ∀ (codec : Codec) (peer : Peer) (d : Desk), Reachable codec peer d →
      ∀ k node sub moves before after id n, d.Makes k (.next node sub) moves →
        moves = before ++ .step k :: after →
        (d.moveAll before).Stands k (.going (.looking ⟨node, sub, false⟩)) →
        (d.moveAll before).client.find? sub = some id →
        (d.moveAll moves).Returned k (.notice n) → n.isLast = true →
        ∀ x ∈ d.deeds k moves, x.Concerns (some id) := by
  intro h
  have hreturned : (lateDesk.moveAll lateEnding).finished.any (fun x =>
      x.id = 2 && match x.result with | .notice n => n.isLast | _ => false) = true := by
    decide +kernel
  obtain ⟨n, hn, hlast⟩ : ∃ n, (lateDesk.moveAll lateEnding).Returned 2 (.notice n) ∧
      n.isLast = true := by
    obtain ⟨x, hx, hnotice⟩ := List.any_eq_true.1 hreturned
    obtain ⟨hid, hnotice⟩ := Bool.and_eq_true_iff.1 hnotice
    split at hnotice
    · rename_i n hresult
      exact ⟨n, ⟨x, hx, of_decide_eq_true hid, hresult⟩, hnotice⟩
    · cases hnotice
  have hlost : (lateDesk.deeds 2 lateEnding).any (fun x =>
      ("s", 1) ∈ x.before.subscriptions && ("s", 1) ∉ x.after.subscriptions) = true := by
    decide +kernel
  obtain ⟨x, hx, hlost⟩ := List.any_eq_true.1 hlost
  have hconcerns := h _ _ lateDesk .opens 2 "node" "s" lateEnding _ _ 0 n (.of_opening rfl) rfl
    (stands_going (by decide +kernel) (by decide +kernel)) (by decide +kernel) hn hlast x hx
  have htable := hconcerns.table ("s", 1) (by decide)
  simp [htable] at hlost

/-- The connection that the second poll gives up is that of the session that has come since. -/
example : closings (traffic ((lateDesk.deeds 2 lateEnding).flatMap (·.seen))) = [1] := by
  decide +kernel

end Runs
end Desk
end SpaceGateway
