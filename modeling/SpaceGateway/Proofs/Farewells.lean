import SpaceGateway.Proofs.Keeping
/-!
What is logged when a server goes. Nothing of the kind is seen of a call, so that all of it comes from
the registry: when the server is unlinked, or when its last task is over.
-/
namespace SpaceGateway

/-- Whether something is logged only when a server goes. -/
def Log.Entry.isFarewell : Log.Entry → Bool
  | serverLive .. | serverDestroyed _ => true
  | _ => false

/-- What was logged of servers that went. -/
def farewells (ev : List Event) : List Log.Entry :=
  ev.filterMap fun
    | .log e _ => if e.isFarewell then some e else none
    | _ => none

section Events
variable {g : Gateway} {t : Task} {ev ev' : List Event}

@[simp] theorem farewells_nil : farewells [] = [] := rfl

@[simp] theorem farewells_append : farewells (ev ++ ev') = farewells ev ++ farewells ev' := by
  simp [farewells]

@[simp] theorem farewells_log_cons (e : Log.Entry) (s : Option Span) :
    farewells (.log e s :: ev) = (if e.isFarewell then [e] else []) ++ farewells ev := by
  cases h : e.isFarewell <;> simp [farewells, h]

@[simp] theorem farewells_traffic_cons (x : Traffic) :
    farewells (.traffic x :: ev) = farewells ev := rfl

@[simp] theorem farewells_notice_cons (s : String) (n : Notice) :
    farewells (.notice s n :: ev) = farewells ev := rfl

@[simp] theorem farewells_reply_cons (c : CallerId) (r : Reply) (arrives : Bool) :
    farewells (.reply c r arrives :: ev) = farewells ev := rfl

@[simp] theorem farewells_map_during (s : Span) :
    farewells (ev.map (Event.during s)) = farewells ev := by
  induction ev with
  | nil => rfl
  | cons e ev ih =>
    rw [List.map_cons]
    rcases e with _ | ⟨_, _ | _⟩ | _ | _ <;> simp [Event.during, ih]

@[simp] theorem farewells_send (caller : CallerId) (r : Reply) :
    farewells (g.send caller r) = [] := by
  unfold Gateway.send
  split <;> rfl

@[simp] theorem farewells_relay : farewells (ev.flatMap (g.relay t)) = farewells ev := by
  induction ev with
  | nil => rfl
  | cons e ev ih =>
    rw [List.flatMap_cons, farewells_append, ih]
    cases e <;> simp [Gateway.relay]

theorem farewells_entries {l : List Log.Entry} (h : ∀ e ∈ l, e.isFarewell = false) :
    farewells (l.map (Event.log ·)) = [] := by
  induction l with
  | nil => rfl
  | cons e l ih =>
    rw [List.map_cons, farewells_log_cons, h e (by simp), ih (fun x hx => h x (by simp [hx]))]
    rfl

@[simp] theorem farewells_verdict (e : Error) : farewells (e.verdict.map (Event.log ·)) = [] := by
  cases e <;> rfl

@[simp] theorem isFarewell_entry (subscription : String) (n : Notice) :
    (n.entry subscription).isFarewell = false := by
  cases n <;> rfl

end Events

section Calls
variable {parser : Parser} {c : Client} {k : CallId} {id : SessionId} {s : Session}

@[simp] theorem farewells_close (s : Session) : farewells s.close.2 = [] := by
  unfold Session.close
  split <;> rfl

@[simp] theorem farewells_abandon (s : Session) : farewells s.abandon.2 = [] := by
  unfold Session.abandon
  split <;> rfl

@[simp] theorem farewells_parsed (r : Receiving) : farewells (Session.parsed r) = [] := by
  unfold Session.parsed
  split <;> rfl

@[simp] theorem farewells_receive (s : Session) : farewells (s.receive parser).2 = [] := by
  unfold Session.receive
  split
  · exact farewells_parsed _
  · rfl

@[simp] theorem farewells_resume (s : Session) (a : Act) (x : Answer) :
    farewells (s.resume parser a x).2 = [] := by
  unfold Session.resume
  split <;> first | rfl | exact farewells_parsed _

@[simp] theorem farewells_demand (d : Demand) (x : Answer) : farewells (d.events x) = [] := by
  unfold Demand.events
  cases d.record? x <;> rfl

@[simp] theorem farewells_follow (purpose : Purpose) (p : Session.Progress) :
    farewells (Exchange.follow purpose p).2 = [] := by
  cases p <;> simp only [Exchange.follow] <;> (try split) <;> simp

@[simp] theorem farewells_exchange (peer : Peer) (purpose : Purpose) (request : Bytes)
    (x : Exchange) (a : Answer) : farewells (x.resume parser peer purpose request a).2 = [] := by
  unfold Exchange.resume
  split
  · dsimp only
    split <;> simp [Log.Entry.isFarewell]
  · rfl
  · simp
  · rfl

@[simp] theorem farewells_register (subscription : String) :
    farewells (c.register subscription s).2.2 = [] := by
  unfold Client.register
  split <;> simp [Log.Entry.isFarewell]

@[simp] theorem farewells_leave : farewells (c.leave id k).2 = [] := by
  unfold Client.leave Client.letGo
  split
  · rfl
  · split <;> simp

@[simp] theorem farewells_notify (p : Poll) (n : Notice) : farewells (Call.notify p n).2 = [] := by
  unfold Call.notify
  split <;> simp

@[simp] theorem farewells_polled (space : String) (p : Poll) (r : Except Error Message) :
    farewells (Call.polled space p r).2 = [] := by
  simp only [Call.polled, Call.noted, farewells_append]
  refine List.append_eq_nil_iff.2 ⟨?_, ?_⟩
  · split <;> simp
  · split <;> simp

@[simp] theorem farewells_afterwards (found : Bool) (after : After) :
    farewells (Call.afterwards found after).2 = [] := by
  cases after <;> simp [Call.afterwards]

@[simp] theorem farewells_outcome (space : String) (e : Errand)
    (r : Except Error (Option Message)) : farewells (Call.outcome space e r).2 = [] := by
  unfold Call.outcome
  split <;> simp

@[simp] theorem farewells_conclude (e : Errand) (r : Except Error (Option Message)) :
    farewells (Call.conclude c k id e s r).events = [] := by
  simp [Call.conclude]

@[simp] theorem farewells_proceed (e : Errand) (p : Session.Progress) :
    farewells (Call.proceed c k id e p).events = [] := by
  cases p <;> simp [Call.proceed]

@[simp] theorem farewells_after (ev : List Event) (x : Step) :
    farewells (x.after ev).events = farewells ev ++ farewells x.events := by
  simp [Step.after]

@[simp] theorem farewells_embark (e : Errand) :
    farewells (Call.embark parser c k id s e).events = [] := by
  cases e <;> simp [Call.embark, Log.Entry.isFarewell]

@[simp] theorem farewells_exchanged (aim : Aim) (request : Bytes) (p : Exchange.Progress) :
    farewells (Call.exchanged c aim request p).events = [] := by
  unfold Call.exchanged
  repeat' split
  all_goals simp

/-- A step of a call says nothing of servers. -/
theorem farewells_step (call : Call) : farewells (call.step parser c k).events = [] := by
  cases call with
  | registering m subscription s =>
    simp only [Call.step]
    split <;> simp [Log.Entry.isFarewell]
  | looking p =>
    simp only [Call.step]
    split <;> simp
  | removing subscription after =>
    simp only [Call.step]
    split <;> simp
  | waiting id e =>
    simp only [Call.step]
    repeat' split
    all_goals simp
  | _ => rfl

theorem farewells_answered (call : Call) (a : Answer) :
    farewells (call.resume parser c k a).events = [] := by
  cases call with
  | exchanging aim request x => simp [Call.resume]
  | acting id e act =>
    simp only [Call.resume]
    split <;> simp
  | _ => rfl

theorem Call.Makes.farewells {w : WorkerId} {s : Step} (h : Call.Makes parser c w s) :
    SpaceGateway.farewells s.events = [] := by
  cases h with
  | begins status => rfl
  | steps call => exact farewells_step call
  | resumes call a => exact farewells_answered call a

end Calls

section Workers
variable {g : Gateway} {w : WorkerId} {t : Task} {taking : Bool} {c : Client} {s : Step} {n : Turn}
variable {own : Option Holding} {next : Gateway × List Event}

theorem isFarewell_failureEntry (e : Error) : (Task.failureEntry e).isFarewell = false := by
  unfold Task.failureEntry
  split <;> rfl

theorem isFarewell_concluded {r : CallResult} {e : Log.Entry}
    (h : e ∈ (t.conclude r).entries) : e.isFarewell = false := by
  obtain ⟨_, _, _, _, _, o⟩ := t
  cases o <;> cases r <;>
    simp only [Task.conclude, Task.failure, List.not_mem_nil, List.mem_singleton] at h
  case query.message m =>
    split at h
    · cases h
    · rw [List.mem_singleton.1 h]
      rfl
  all_goals
    rw [h]
    first | exact isFarewell_failureEntry _ | rfl

theorem farewells_told (r : CallResult) :
    farewells ((t.conclude r).entries.map (Event.log ·) ++
      (t.conclude r).reply.elim [] (g.send t.caller)) = [] := by
  rw [farewells_append, farewells_entries fun _ => isFarewell_concluded]
  cases (t.conclude r).reply <;> simp

/-- What a step for a task says of servers is what is said when its server goes. -/
theorem proceed_farewells (hs : farewells s.events = []) :
    farewells (g.proceed w t s).2 = farewells (g.registry.attended t s.client (t.call? s)).2 := by
  cases h : s.status with
  | going call =>
    have hc : t.call? s = some call := by simp [Task.call?, h]
    rw [proceed_going h, hc]
    simp [hs, Registry.attended]
  | done r =>
    cases hf : (t.conclude r).follow with
    | some sub =>
      have hc : t.call? s = some (.looking ⟨t.node, sub, true⟩) := by simp [Task.call?, h, hf]
      rw [proceed_follow h hf, hc, farewells_append, farewells_relay, farewells_told, hs]
      rfl
    | none =>
      have hc : t.call? s = none := by simp [Task.call?, h, hf]
      rw [proceed_over h hf, hc, farewells_append, farewells_append, farewells_relay,
        farewells_told, hs]
      rfl

theorem Gateway.Proceeds.farewells (h : g.Proceeds w t taking c own n s next) :
    SpaceGateway.farewells next.2 =
      SpaceGateway.farewells (g.registry.attended t s.client (t.call? s)).2 := by
  rw [h.next, farewells_map_during, proceed_farewells h.makes.farewells]

end Workers

/-- A request makes no server go. -/
theorem farewells_request (g : Gateway) (caller : CallerId) (r : CallerRequest) :
    farewells (g.request caller r).2.2 = [] := by
  have hreply : farewells ((Reply.failure? r.access r.operation).elim [] (g.send caller)) = [] := by
    cases Reply.failure? r.access r.operation <;> simp
  unfold Gateway.request Registry.find Gateway.submit
  cases g.registry.find? r.server with
  | none => simp [hreply, Log.Entry.isFarewell]
  | some server =>
    cases ha : g.pool.accepting with
    | true => simp [Log.Entry.isFarewell]
    | false => simp [hreply, Log.Entry.isFarewell]

end SpaceGateway
