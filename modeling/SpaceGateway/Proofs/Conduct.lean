import SpaceGateway.Proofs.Dialogue
/-!
Tasks do not get into each other's way. The replies to a request are settled by the request, the server
it goes to, how the connection behaves, and whether the subscription is free when the task enters it.
Of two runs that agree in these, each task has gone a part of the same way.
-/
namespace SpaceGateway

def Session.bare (s : Session) : Session := { s with conn := 0 }

def Session.Progress.bare : Session.Progress → Session.Progress
  | busy s a => busy s.bare a
  | sent s => sent s.bare
  | finished s => finished s.bare
  | received s m => received s.bare m
  | failed s e => failed s.bare e

def Exchange.bare : Exchange → Exchange
  | connecting => connecting
  | acting s a => acting s.bare a

def Exchange.Progress.bare : Exchange.Progress → Exchange.Progress
  | busy x => busy x.bare
  | connected s => connected s.bare
  | kept m s => kept m s.bare
  | p => p

def Call.bare : Call → Call
  | exchanging aim request x => exchanging aim request x.bare
  | registering m subscription s => registering m subscription s.bare
  | call => call

def Stage.bare : Stage → Stage
  | calling call => calling call.bare
  | polling subscription post s => polling subscription post s.bare
  | closing subscription n post s => closing subscription n post s.bare
  | stage => stage

def Demand.bare : Demand → Demand
  | write _ b => write 0 b
  | flush _ => flush 0
  | finish _ => finish 0
  | read _ most => read 0 most
  | d => d

def Answer.bare : Answer → Answer
  | connected _ => connected 0
  | a => a

def Input.bare : Input → Input
  | step free => step free
  | answer a => answer a.bare

def Dialogue.bare (ds : Dialogue) : Dialogue := ds.map fun (d, a) => (d.bare, a.bare)

/-- A turn without the number of the connection, and without what is seen on the network. -/
def Turn.bare (c : Turn) : Stage × List Reply := (c.stage.bare, c.replies)

section Bare
variable {codec : Codec} {parser : Parser} {peer : Peer} {purpose : Purpose} {request : Bytes}
variable {t : Task} {s : Session} {x : Exchange} {stage : Stage} {d : Demand} {a : Answer}
variable {ev ev' : List Event}

theorem ofReceiving_bare (r : Receiving) : s.bare.ofReceiving r = (s.ofReceiving r).bare := by
  rcases r with _ | ⟨b, seen, e | m⟩ <;> rfl

theorem receive_bare : (s.bare.receive parser).1 = (s.receive parser).1.bare := by
  unfold Session.receive
  cases h : s.isOpen with
  | false => simp [Session.bare, h, Session.Progress.bare]
  | true =>
    simp only [show s.bare.isOpen = true from h, if_true]
    exact ofReceiving_bare _

theorem resume_bare (act : Act) : (s.bare.resume parser act a.bare).1 = (s.resume parser act a).1.bare := by
  cases act with
  | receiving seen =>
    cases a with
    | delivered b => exact ofReceiving_bare (s.buffer.deliver parser seen (.bytes b))
    | failed reason => exact ofReceiving_bare (s.buffer.deliver parser seen (.failed reason))
    | _ => rfl
  | writing rest =>
    cases a with
    | accepted n => cases n <;> rfl
    | _ => rfl
  | flushing | finishing => cases a <;> rfl

theorem follow_bare (p : Session.Progress) :
    (Exchange.follow purpose p.bare).1 = (Exchange.follow purpose p).1.bare := by
  cases p with
  | busy | failed | finished => rfl
  | sent s =>
    simp only [Session.Progress.bare, Exchange.follow]
    split <;> rfl
  | received s m =>
    simp only [Session.Progress.bare, Exchange.follow]
    split <;> rfl

theorem exchange_bare : (x.bare.resume parser peer purpose request a.bare).1 =
    (x.resume parser peer purpose request a).1.bare := by
  cases x with
  | acting s act =>
    have h := @resume_bare parser s a act
    simp only [Exchange.bare, Exchange.resume, h, follow_bare]
  | connecting =>
    cases a with
    | connected c =>
      simp only [Exchange.bare, Answer.bare, Exchange.resume]
      split
      · rfl
      · exact @follow_bare purpose (Session.send ⟨c, true, { capacity := peer.receiveBuffer }⟩ request)
    | _ => rfl

theorem settled_done {st : Step} {r : CallResult} (h : st.status = .done r) :
    (Stage.settled t st).bare = (.ended, t.told r) := by
  simp [Stage.settled, h, Turn.bare, Stage.bare]

theorem settled_going {st : Step} {call : Call} (h : st.status = .going call) :
    (Stage.settled t st).bare = (.calling call.bare, []) := by
  simp [Stage.settled, h, Turn.bare, Stage.bare]

/-- No reply tells of a session. -/
theorem told_connected (s s' : Session) : t.told (.connected s) = t.told (.connected s') := by
  unfold Task.told Task.conclude
  cases t.operation <;> rfl

theorem told_kept (m : Message) (s s' : Session) : t.told (.kept m s) = t.told (.kept m s') := by
  unfold Task.told Task.conclude
  cases t.operation <;> rfl

theorem settled_bare (aim : Aim) (p : Exchange.Progress) :
    (Stage.settled t ((Call.exchanged { peer } aim request p.bare).after ev)).bare =
      (Stage.settled t ((Call.exchanged { peer } aim request p).after ev')).bare := by
  cases p with
  | busy x => rw [settled_going rfl, settled_going rfl]; cases x <;> rfl
  | failed e => rw [settled_done rfl, settled_done rfl]
  | told => rw [settled_done rfl, settled_done rfl]
  | connected s => rw [settled_done rfl, settled_done rfl, told_connected]
  | answered m =>
    cases aim with
    | confirm node tr =>
      simp only [Exchange.Progress.bare, Call.exchanged]
      cases m.confirmed node peer.space tr <;> rw [settled_done rfl, settled_done rfl]
    | _ => rw [settled_done rfl, settled_done rfl]
  | kept m s =>
    cases aim with
    | subscribe node tr =>
      simp only [Exchange.Progress.bare, Call.exchanged]
      cases m.confirmed node peer.space tr with
      | error e => rw [settled_done rfl, settled_done rfl]
      | ok m =>
        dsimp only
        cases m.subscription with
        | none => rw [settled_done rfl, settled_done rfl]
        | some subscription => rw [settled_going rfl, settled_going rfl]; rfl
    | _ => rw [settled_done rfl, settled_done rfl, told_kept]

theorem noticed_bare {space subscription : String} (r : Except Error Message) :
    (Stage.noticed t space subscription s.bare r).bare =
      (Stage.noticed t space subscription s r).bare := by
  simp only [Stage.noticed]
  split <;> rfl

theorem progressed_bare {space subscription : String} (p : Session.Progress) :
    (Stage.progressed t space subscription p.bare).bare =
      (Stage.progressed t space subscription p).bare := by
  cases p with
  | busy s act => rfl
  | sent | finished | received | failed => exact noticed_bare _

/-- Which number the connection has makes no difference to a task. -/
theorem next_bare (i : Input) :
    (stage.bare.next codec peer t i.bare).bare = (stage.next codec peer t i).bare := by
  cases i with
  | step free =>
    cases stage with
    | queued | ended => rfl
    | polling sub post s =>
      cases post with
      | waiting =>
        simp only [Stage.bare, Input.bare, Stage.next, receive_bare]
        exact progressed_bare _
      | _ => rfl
    | closing sub n post s => cases post <;> rfl
    | calling call =>
      cases call with
      | registering m sub s => cases free <;> rfl
      | exchanging aim request x => cases x <;> rfl
      | _ => rfl
  | answer a =>
    cases stage with
    | queued | ended => rfl
    | closing sub n post s => cases post <;> rfl
    | polling sub post s =>
      cases post with
      | acting act =>
        have h := @progressed_bare t peer.space sub (s.resume codec.parser act a).1
        rw [← resume_bare] at h
        exact h
      | _ => rfl
    | calling call =>
      cases call with
      | exchanging aim request x =>
        simp only [Stage.bare, Call.bare, Input.bare, next_exchanging, exchange_bare]
        exact settled_bare aim _
      | _ => rfl

theorem demand?_bare : stage.bare.demand? peer = (stage.demand? peer).map Demand.bare := by
  cases stage with
  | queued | ended => rfl
  | closing => rfl
  | polling sub post s =>
    cases post with
    | acting act => cases act <;> rfl
    | _ => rfl
  | calling call =>
    cases call with
    | exchanging aim request x =>
      cases x with
      | connecting => rfl
      | acting s act => cases act <;> rfl
    | _ => rfl

theorem record?_bare : (d.bare.record? a.bare).isSome = (d.record? a).isSome := by
  cases d <;> cases a <;> rfl

end Bare

/-- How a connection behaves: what it answers to a demand after all that was said before. The number of
the connection does not count. -/
abbrev Conduct := Dialogue → Demand → Answer

/-- Whether the answers of a dialogue are those of a conduct. -/
def Conducted (f : Conduct) (ds : Dialogue) : Prop :=
  ∀ (past : Dialogue) d a, past ++ [(d, a)] <+: ds → a.bare = f past.bare d.bare

/-- How far a task has come, without the number of its connection. -/
structure Scene where
  stage : Stage
  replies : List Reply
  said : Dialogue

/-- What moves a task on, with a connection of this conduct, and a subscription that is free or not. -/
def Scene.input (peer : Peer) (f : Conduct) (free : Bool) (x : Scene) : Input :=
  (x.stage.demand? peer).elim (.step free) fun d => .answer (f x.said d)

def Scene.next (codec : Codec) (peer : Peer) (t : Task) (f : Conduct) (free : Bool) (x : Scene) :
    Scene :=
  let i := x.input peer f free
  let n := x.stage.next codec peer t i
  ⟨n.stage.bare, x.replies ++ n.replies, x.said ++ (x.stage.said? peer i).toList⟩

/-- The scene after so many inputs that count. -/
def sceneAfter (codec : Codec) (peer : Peer) (t : Task) (f : Conduct) (free : Bool) : Nat → Scene
  | 0 => ⟨.queued, [], []⟩
  | n + 1 => (sceneAfter codec peer t f free n).next codec peer t f free

section Ways
variable {codec : Codec} {peer : Peer} {t : Task} {f : Conduct} {free : Bool} {stage : Stage}
variable {ds past : Dialogue} {d : Demand} {a : Answer} {i : Input} {inputs : List Input} {n n' : Nat}

theorem Conducted.front (h : Conducted f (ds ++ past)) : Conducted f ds := by
  intro past' d a hp
  exact h past' d a (hp.trans (List.prefix_append ..))

theorem conducted_of_forall {g : Demand → Answer} (h : ∀ x ∈ ds, x.2.bare = g x.1.bare) :
    Conducted (fun _ => g) ds := by
  intro past d a hp
  exact h (d, a) (hp.subset (by simp))

theorem Conducted.last (h : Conducted f (ds ++ [(d, a)])) : a.bare = f ds.bare d.bare :=
  h ds d a (List.prefix_refl _)

/-- Only a task that enters its subscription heeds whether that is free. -/
theorem next_step {b : Bool} (h : ∀ c ∈ stage.found? (.step b), c = free) :
    stage.next codec peer t (.step b) = stage.next codec peer t (.step free) := by
  cases stage with
  | calling call =>
    cases call with
    | registering m sub s => rw [h b rfl]
    | _ => rfl
  | polling sub post s => cases post <;> rfl
  | closing sub n post s => cases post <;> rfl
  | queued | ended => rfl

/-- An input that counts makes the next scene. -/
theorem scene_next {c : Turn} (hh : c.stage.Heeds peer i)
    (ha : ∀ x ∈ c.stage.said? peer i, x.2.bare = f ds.bare x.1.bare)
    (hb : ∀ b ∈ c.stage.found? i, b = free) :
    Scene.next codec peer t f free ⟨c.stage.bare, c.replies, ds.bare⟩ =
      ⟨(c.stage.next codec peer t i).stage.bare,
        c.replies ++ (c.stage.next codec peer t i).replies,
        Dialogue.bare (ds ++ (c.stage.said? peer i).toList)⟩ := by
  have hdemand := @demand?_bare peer c.stage
  cases i with
  | step b =>
    rw [show c.stage.demand? peer = none from hh] at hdemand
    have hn := @next_bare codec peer t c.stage (.step free)
    rw [← next_step hb] at hn
    obtain ⟨hstage, hreplies⟩ := Prod.mk.inj hn
    simp only [Scene.next, Scene.input, hdemand, Option.map_none, Option.elim_none,
      Scene.mk.injEq]
    refine ⟨hstage, congrArg _ hreplies, ?_⟩
    simp [Stage.said?]
  | answer a =>
    obtain ⟨d, hd, hr⟩ := hh
    have hsaid := said?_answer hd hr
    have hanswer : a.bare = f ds.bare d.bare := ha (d, a) hsaid
    rw [hd] at hdemand
    have hbare : c.stage.bare.said? peer (.answer a.bare) = some (d.bare, a.bare) :=
      said?_answer hdemand (record?_bare.trans hr)
    obtain ⟨hstage, hreplies⟩ := Prod.mk.inj (@next_bare codec peer t c.stage (.answer a))
    simp only [Scene.next, Scene.input, hdemand, Option.map_some, Option.elim_some,
      ← hanswer, hbare, hsaid, Scene.mk.injEq]
    refine ⟨hstage, congrArg _ hreplies, ?_⟩
    simp [Dialogue.bare]

/-- Wherever a course has come to, it is on the one way that the conduct of the connection leaves. -/
theorem course_scene (hf : Conducted f (dialogue codec peer t inputs))
    (hb : ∀ b ∈ findings codec peer t inputs, b = free) :
    ∃ n, sceneAfter codec peer t f free n = ⟨(course codec peer t inputs).stage.bare,
      (course codec peer t inputs).replies, (dialogue codec peer t inputs).bare⟩ := by
  induction inputs using List.reverseRecOn with
  | nil => exact ⟨0, rfl⟩
  | append_singleton inputs i ih =>
    rw [dialogue_snoc] at hf ⊢
    rw [findings_snoc] at hb
    obtain ⟨n, hn⟩ := ih hf.front fun b hm => hb b (List.mem_append_left _ hm)
    rw [course_snoc]
    by_cases hh : (course codec peer t inputs).stage.Heeds peer i
    · refine ⟨n + 1, ?_⟩
      rw [sceneAfter, hn, scene_next (i := i) hh ?_ ?_]
      · rfl
      · rintro ⟨d, a⟩ hx
        rw [hx] at hf
        exact hf.last
      · intro b hm
        exact hb b (List.mem_append_right _ (Option.mem_toList.2 hm))
    · refine ⟨n, ?_⟩
      rw [hn, next_unheeded hh, said?_unheeded hh]
      simp [Turn.followedBy]

/-- The way ends with the task. -/
theorem sceneAfter_ended (h : (sceneAfter codec peer t f free n).stage = .ended) (hn : n ≤ n') :
    sceneAfter codec peer t f free n' = sceneAfter codec peer t f free n := by
  induction hn with
  | refl => rfl
  | step hm ih =>
    rw [sceneAfter, ih]
    generalize sceneAfter codec peer t f free n = x at h
    obtain ⟨stage, replies, said⟩ := x
    cases h
    simp [Scene.next, Scene.input, Stage.demand?, Stage.next, Stage.bare, Stage.said?]

/-- Two courses of a task that are over, on connections of one conduct, have sent the same. -/
theorem replies_of_conduct {inputs' : List Input}
    (hf : Conducted f (dialogue codec peer t inputs))
    (hf' : Conducted f (dialogue codec peer t inputs'))
    (hb : ∀ b ∈ findings codec peer t inputs, b = free)
    (hb' : ∀ b ∈ findings codec peer t inputs', b = free)
    (he : (course codec peer t inputs).stage = .ended)
    (he' : (course codec peer t inputs').stage = .ended) :
    (course codec peer t inputs).replies = (course codec peer t inputs').replies := by
  obtain ⟨n, hn⟩ := course_scene hf hb
  obtain ⟨n', hn'⟩ := course_scene hf' hb'
  have hend : (sceneAfter codec peer t f free n).stage = .ended := by rw [hn, he]; rfl
  have hend' : (sceneAfter codec peer t f free n').stage = .ended := by rw [hn', he']; rfl
  have hsame : sceneAfter codec peer t f free n = sceneAfter codec peer t f free n' := by
    rcases Nat.le_total n n' with hle | hle
    · exact (sceneAfter_ended hend hle).symm
    · exact sceneAfter_ended hend' hle
  rw [hn, hn'] at hsame
  exact congrArg Scene.replies hsame

section Callers
variable (server : ServerId) (caller : CallerId)

theorem next_caller (stage : Stage) (i : Input) :
    stage.next codec peer { t with server, caller } i = stage.next codec peer t i := rfl

/-- Whose task it is, and which server it has, does not move it. -/
theorem course_caller :
    course codec peer { t with server, caller } inputs = course codec peer t inputs := by
  simp only [course, next_caller]

theorem stops_caller :
    stops codec peer { t with server, caller } stage inputs = stops codec peer t stage inputs := by
  induction inputs generalizing stage with
  | nil => rfl
  | cons i rest ih => simp only [stops, next_caller, ih]

theorem dialogue_caller :
    dialogue codec peer { t with server, caller } inputs = dialogue codec peer t inputs := by
  simp only [dialogue, stops_caller]

theorem findings_caller :
    findings codec peer { t with server, caller } inputs = findings codec peer t inputs := by
  simp only [findings, stops_caller]

end Callers

theorem common_finding {found found' : List Bool} {p p' : Prop}
    (h : found = [] ∨ p ∧ ∃ b, found = [b]) (h' : found' = [] ∨ p' ∧ ∃ b, found' = [b])
    (hsame : ∀ b ∈ found, ∀ b' ∈ found', b = b') :
    ∃ free, (∀ b ∈ found, b = free) ∧ ∀ b ∈ found', b = free := by
  rcases h with rfl | ⟨-, b, rfl⟩
  · rcases h' with rfl | ⟨-, b', rfl⟩
    · exact ⟨true, nofun, nofun⟩
    · exact ⟨b', by simp⟩
  · refine ⟨b, by simp, ?_⟩
    intro b' hm
    exact (hsame b (by simp) b' hm).symm

end Ways

namespace Ledger

section Runs
variable {codec : Codec} {config config' : Config} {l l' : Ledger} {k k' : Ticket} {t t' : Task}
variable {server server' : ServerInfo} {f : Conduct}

/-- Two tasks that ask for the same, of servers of the same identity and address, on connections that
behave alike, and that find their subscription equally free or taken, have sent the same replies when
they are over. Whatever else went on in their gateways makes no difference. -/
theorem replies_of_like_tasks (h : Reachable codec config l) (h' : Reachable codec config' l')
    (hbuffer : config.receiveBuffer = config'.receiveBuffer)
    (ht : l.task? k = some t) (ht' : l'.task? k' = some t')
    (hask : t' = { t with server := t'.server, caller := t'.caller })
    (hserver : l.gateway.registry.servers[t.server]?.map (·.info) = some server)
    (hserver' : l'.gateway.registry.servers[t'.server]?.map (·.info) = some server')
    (hidentity : server.identity = server'.identity) (haddress : server.address = server'.address)
    (hf : Conducted f (l.dialogue k)) (hf' : Conducted f (l'.dialogue k'))
    (hfree : ∀ b ∈ l.findings k, ∀ b' ∈ l'.findings k', b = b')
    (hr : k ∈ l.released) (hr' : k' ∈ l'.released) :
    (l.repliesOf k).map (·.2) = (l'.repliesOf k').map (·.2) := by
  have hsound := sound_of_reachable h
  have hsound' := sound_of_reachable h'
  obtain ⟨s, hs, rfl⟩ := Option.map_eq_some_iff.1 hserver
  obtain ⟨s', hs', rfl⟩ := Option.map_eq_some_iff.1 hserver'
  obtain ⟨hc, hpeer⟩ := (placed_of_run h).peer_of_server hs
  obtain ⟨hc', hpeer'⟩ := (placed_of_run h').peer_of_server hs'
  have hsame : s'.client.peer = s.client.peer := by
    rw [hpeer, hpeer', ServerInfo.peer, ServerInfo.peer, hidentity, haddress, hbuffer]
  have he := hsound.owned.ended k hr
  have he' := hsound'.owned.ended k' hr'
  rw [hsound.accounts.replied k t ht, hsound'.accounts.replied k' t' ht']
  rw [course_eq ht hc, (placed_of_run h).codec] at he ⊢
  rw [course_eq ht' hc', (placed_of_run h').codec, hsame] at he' ⊢
  rw [dialogue_eq ht hc, (placed_of_run h).codec] at hf
  rw [dialogue_eq ht' hc', (placed_of_run h').codec, hsame] at hf'
  rw [findings_eq ht hc, findings_eq ht' hc', (placed_of_run h).codec, (placed_of_run h').codec,
    hsame] at hfree
  rw [hask, course_caller t'.server t'.caller] at he' ⊢
  rw [hask, dialogue_caller t'.server t'.caller] at hf'
  rw [hask, findings_caller t'.server t'.caller] at hfree
  obtain ⟨free, hb, hb'⟩ := common_finding (findings_once _) (findings_once _) hfree
  simp only [List.map_map, Function.comp_def, List.map_id']
  exact replies_of_conduct hf hf' hb hb' he he'

/-- A server that takes a node for a subscriber, whatever it asks. -/
def assent : Message :=
  { transaction := .subscribe, role := .confirm, node := "node", space := "space",
    status := some .success, subscription := some "s" }

def assenting : Codec := ⟨fun _ => .ok [1], fun _ => .complete 1 assent⟩

def listen : CallerRequest := ⟨"space", "node", "mark", 1, .subscribe .template "all"⟩

/-- How its connections behave. -/
def obliging : Demand → Answer
  | .connect _ => .connected 0
  | .write .. => .accepted 1
  | .flush _ | .finish _ => .done
  | .read .. => .delivered [0]

/-- A worker that has taken a task sends its request, and enters the subscription if that is free. -/
def listens (w : WorkerId) (c : ConnId) : List Move :=
  [.answer w (.connected c), .answer w (.accepted 1), .answer w .done, .answer w .done,
    .answer w (.delivered [0]), .work w]

/-- It receives something that is no change, and ends the subscription. -/
def leaves (w : WorkerId) : List Move :=
  [.work w, .work w, .work w, .answer w (.delivered [0]), .work w, .work w, .work w]

def host : ServerInfo := ⟨"space", "", ⟨"host", 1⟩⟩

def listensAlone : List Move :=
  [.discover (.added host), .request "caller" listen, .work 0] ++ listens 0 7 ++ leaves 0

/-- Another task is there, which finds the subscription taken. -/
def listensInCompany : List Move :=
  [.discover (.added host), .request "other" listen, .request "caller" listen, .work 0,
    .work 1] ++ listens 1 4 ++ listens 0 3 ++ leaves 1

theorem replies_alone_and_in_company :
    (((start assenting {}).moveAll listensAlone).repliesOf 0).map (·.2) =
      (((start assenting { workers := 2 }).moveAll listensInCompany).repliesOf 1).map (·.2) := by
  have ht : ((start assenting {}).moveAll listensAlone).task? 0 =
      some (.ofRequest 0 "caller" listen) := by decide +kernel
  have ht' : ((start assenting { workers := 2 }).moveAll listensInCompany).task? 1 =
      some (.ofRequest 0 "caller" listen) := by decide +kernel
  have hserver : ((start assenting {}).moveAll listensAlone).gateway.registry.servers[0]?.map
      (·.info) = some host := by decide +kernel
  have hserver' : ((start assenting { workers := 2 }).moveAll
      listensInCompany).gateway.registry.servers[0]?.map (·.info) = some host := by decide +kernel
  refine @replies_of_like_tasks assenting _ _ _ _ _ _ _ _ _ _ (fun _ => obliging)
    (run_moveAll .refl ?_) (run_moveAll .refl ?_) rfl ht ht' rfl hserver hserver' rfl rfl
    (conducted_of_forall ?_) (conducted_of_forall ?_) ?_ ?_ ?_ <;> decide +kernel

example : ((start assenting {}).moveAll listensAlone).repliesOf 0 =
    [("caller", .subscribed "mark" .ok "s" ""), ("caller", .unsubscribed "mark" .failed "s")] := by
  decide +kernel

end Runs
end Ledger
end SpaceGateway
