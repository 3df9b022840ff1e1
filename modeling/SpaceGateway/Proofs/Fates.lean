import SpaceGateway.Proofs.Connections
import SpaceGateway.Proofs.Replies
import SpaceGateway.Proofs.Verdict
/-!
What becomes of the task of a request. It goes on as its exchange does. When that has failed, or has
brought a message that does not confirm what was asked for, the task is over and its caller is told so.
-/
namespace SpaceGateway

/-- What the exchange of a task has come to by a dialogue. -/
def Task.ComesTo (codec : Codec) (peer : Peer) (t : Task) (ds : Dialogue)
    (r : Except Error (Option Message)) : Prop :=
  ∃ b, codec.build (t.request peer.space) = .ok b ∧
    Exchange.Word codec.parser peer b t.aim.purpose ds r

/-- Whether a message confirms what a task asks for. A subscription needs a name. -/
structure Task.IsConfirmed (peer : Peer) (t : Task) (m : Message) : Prop where
  answers : m.Answers t.node peer.space t.operation.transaction
  status : m.status = some .success
  named : t.operation.IsSubscribe → m.subscription.isSome = true

/-- Why a task fails by a message that its exchange has brought, with what it has found when it was to
enter its subscription. -/
inductive Task.Objects (peer : Peer) (t : Task) (m : Message) : List Bool → Error → Prop
  | mismatched (other : ¬ m.Answers t.node peer.space t.operation.transaction) :
    Objects peer t m [] (.mismatch ⟨t.operation.transaction, .confirm, t.node, peer.space⟩ m.header)
  | refused (answers : m.Answers t.node peer.space t.operation.transaction)
    (status : m.status ≠ some .success) :
    Objects peer t m []
      (.refused t.operation.transaction (m.status.getD (.failure "missing status")))
  | unnamed (answers : m.Answers t.node peer.space t.operation.transaction)
    (status : m.status = some .success) (subscribes : t.operation.IsSubscribe)
    (nameless : m.subscription = none) : Objects peer t m [] (.parseFailed .noSubscription)
  | taken {subscription} (answers : m.Answers t.node peer.space t.operation.transaction)
    (status : m.status = some .success) (subscribes : t.operation.IsSubscribe)
    (name : m.subscription = some subscription) :
    Objects peer t m [false] (.subscriptionTaken subscription)

/-- Why a task fails: its request cannot be built, its exchange does not come to its end, or what that
brings is wrong. -/
inductive Task.Fails (codec : Codec) (peer : Peer) (t : Task) :
    Dialogue → List Bool → Error → Prop
  | unbuilt {f} (unbuilt : codec.build (t.request peer.space) = .error f) :
    Fails codec peer t [] [] (.codec f)
  | broken {ds e} (comes : t.ComesTo codec peer ds (.error e)) : Fails codec peer t ds [] e
  | objected {ds m found e} (comes : t.ComesTo codec peer ds (.ok (some m)))
    (objects : t.Objects peer m found e) : Fails codec peer t ds found e

/-- How far a task has come, what was said and found on the way, and what its caller was told. -/
inductive Task.Fares (codec : Codec) (peer : Peer) (t : Task) :
    Stage → Dialogue → List Bool → List Reply → Prop
  | queued : Fares codec peer t .queued [] [] []
  | exchanging {b x ds} (built : codec.build (t.request peer.space) = .ok b)
    (run : Exchange.run codec.parser peer t.aim.purpose b .connecting ds = some (.busy x))
    (held : Exchange.Held ds x) :
    Fares codec peer t (.calling (.exchanging t.aim b x)) ds [] []
  | failed {ds found e} (fails : t.Fails codec peer ds found e) :
    Fares codec peer t .ended ds found (t.told (.failed e))
  | told {ds} (comes : t.ComesTo codec peer ds (.ok none)) :
    Fares codec peer t .ended ds [] (t.told .sent)
  | answered {ds m} (comes : t.ComesTo codec peer ds (.ok (some m))) (good : t.IsConfirmed peer m)
    (alone : ¬ t.operation.IsSubscribe) : Fares codec peer t .ended ds [] (t.told (.message m))
  | registering {ds m subscription s} (comes : t.ComesTo codec peer ds (.ok (some m)))
    (good : t.IsConfirmed peer m) (subscribes : t.operation.IsSubscribe)
    (name : m.subscription = some subscription) :
    Fares codec peer t (.calling (.registering m subscription s)) ds [] []
  /-- The subscription is followed, or over. -/
  | followed {stage : Stage} {ds more m replies} (comes : t.ComesTo codec peer ds (.ok (some m)))
    (good : t.IsConfirmed peer m) (subscribes : t.operation.IsSubscribe) (past : stage.IsPast) :
    Fares codec peer t stage (ds ++ more) [true] (t.told (.message m) ++ replies)

section Words
variable {parser : Parser} {peer : Peer} {request b : Bytes} {purpose : Purpose} {c : ConnId}
variable {ds more : Dialogue} {codec : Codec} {t : Task} {m : Message} {e : Error} {found : List Bool}

/-- Sending is over once, and comes to one end. -/
theorem Sends.unique {r r' : Except Error Unit} (h : Sends c b ds r)
    (h' : Sends c b (ds ++ more) r') : more = [] ∧ r = r' := by
  induction h with
  | flushed | unflushed | stuck | unwritten =>
    cases h'
    exact ⟨rfl, rfl⟩
  | wrote some rest ih =>
    cases h' with
    | wrote _ rest' => exact ih rest'

theorem Exchange.Tells.unique {r r' : Except Error Unit} (h : Tells peer request ds r)
    (h' : Tells peer request (ds ++ more) r') : more = [] ∧ r = r' := by
  cases h with
  | unconnected =>
    cases h' with
    | unconnected => exact ⟨rfl, rfl⟩
  | connected sends =>
    cases h' with
    | connected sends' => exact sends.unique sends'

/-- An exchange says its word once. -/
theorem Exchange.Word.unique {r r' : Except Error (Option Message)}
    (h : Word parser peer request purpose ds r)
    (h' : Word parser peer request purpose (ds ++ more) r') : more = [] ∧ r = r' := by
  cases h with
  | tell tells =>
    cases h' with
    | tell tells' =>
      obtain ⟨hmore, hr⟩ := tells.unique tells'
      exact ⟨hmore, by rw [hr]⟩
  | ask brings =>
    cases h' with
    | ask brings' =>
      obtain ⟨hmore, hr⟩ := ((ends_iff_brings (.inl rfl)).2 brings).unique
        ((ends_iff_brings (.inl rfl)).2 brings')
      exact ⟨hmore, by rw [hr]⟩
  | keep brings =>
    cases h' with
    | keep brings' =>
      obtain ⟨hmore, hr⟩ := ((ends_iff_brings (.inr rfl)).2 brings).unique
        ((ends_iff_brings (.inr rfl)).2 brings')
      exact ⟨hmore, by rw [hr]⟩

theorem Exchange.Word.ne_nil {r : Except Error (Option Message)}
    (h : Word parser peer request purpose ds r) : ds ≠ [] := by
  cases h with
  | tell tells => cases tells <;> exact List.cons_ne_nil _ _
  | ask brings | keep brings => cases brings <;> exact List.cons_ne_nil _ _

theorem Task.ComesTo.unique {r r' : Except Error (Option Message)} (h : t.ComesTo codec peer ds r)
    (h' : t.ComesTo codec peer (ds ++ more) r') : more = [] ∧ r = r' := by
  obtain ⟨b, hb, hword⟩ := h
  obtain ⟨b', hb', hword'⟩ := h'
  obtain rfl := Except.ok.inj (hb.symm.trans hb')
  exact hword.unique hword'

theorem Task.ComesTo.same {r r' : Except Error (Option Message)} (h : t.ComesTo codec peer ds r)
    (h' : t.ComesTo codec peer ds r') : r = r' :=
  (h.unique ((List.append_nil ds).symm ▸ h')).2

end Words

section Steps
variable {codec : Codec} {peer : Peer} {t : Task} {stage : Stage} {ds : Dialogue} {found : List Bool}
variable {replies : List Reply} {i : Input} {b : Bytes} {m : Message} {l : List Traffic}
variable {p : Exchange.Progress} {ev : List Event} {e e' : Error}

theorem isConfirmed_iff : t.IsConfirmed peer m ↔
    m.confirmed t.node peer.space t.operation.transaction = .ok m ∧
      (t.operation.IsSubscribe → m.subscription.isSome = true) := by
  rw [confirmed_iff]
  constructor
  · rintro ⟨ha, hs, hn⟩
    exact ⟨⟨ha, hs, rfl⟩, hn⟩
  · rintro ⟨⟨ha, hs, -⟩, hn⟩
    exact ⟨ha, hs, hn⟩

/-- What is wrong with a message that does not confirm a request. -/
theorem objects_of_confirmed
    (h : m.confirmed t.node peer.space t.operation.transaction = .error e) :
    t.Objects peer m [] e := by
  by_cases ha : m.Answers t.node peer.space t.operation.transaction
  · by_cases hs : m.status = some .success
    · rw [confirmed_iff.2 ⟨ha, hs, rfl⟩] at h
      cases h
    · rw [confirmed_refused ha hs] at h
      cases h
      exact .refused ha hs
  · rw [confirmed_mismatch ha] at h
    cases h
    exact .mismatched ha

theorem aim_of_ask (h : t.aim.purpose = .ask) : t.aim = .confirm t.node t.operation.transaction := by
  unfold Task.aim at h ⊢
  split at h <;> first | rfl | cases h

theorem fares_over {s : Step} (result : CallResult) (h : s.status = .done result)
    (hf : t.Fares codec peer .ended ds found (t.told result)) :
    t.Fares codec peer (Stage.settled t s).stage ds found (Stage.settled t s).replies := by
  have he : (Stage.settled t s).stage = .ended ∧ (Stage.settled t s).replies = t.told result := by
    simp [Stage.settled, h]
  rw [he.1, he.2]
  exact hf

theorem fares_going {s : Step} (call : Call) (h : s.status = .going call)
    (hf : t.Fares codec peer (.calling call) ds found []) :
    t.Fares codec peer (Stage.settled t s).stage ds found (Stage.settled t s).replies := by
  have he : (Stage.settled t s).stage = .calling call ∧ (Stage.settled t s).replies = [] := by
    simp [Stage.settled, h]
  rw [he.1, he.2]
  exact hf

/-- A request that gets its answer is over. -/
theorem fares_answered (hcomes : t.ComesTo codec peer ds (.ok (some m)))
    (hask : t.aim.purpose = .ask) :
    let n := Stage.settled t ((Call.exchanged { peer } t.aim b (.answered m)).after ev)
    t.Fares codec peer n.stage ds [] n.replies := by
  intro n
  have halone : ¬ t.operation.IsSubscribe := by
    rw [isSubscribe_iff, hask]
    exact nofun
  simp only [n, aim_of_ask hask]
  cases hc : m.confirmed t.node peer.space t.operation.transaction with
  | ok m' =>
    obtain rfl := Message.confirmed_ok hc
    refine fares_over (.message m') (by simp [Call.exchanged, hc, Step.after]) ?_
    exact .answered hcomes (isConfirmed_iff.2 ⟨hc, fun h => (halone h).elim⟩) halone
  | error e =>
    exact fares_over (.failed e) (by simp [Call.exchanged, hc, Step.after])
      (.failed (.objected hcomes (objects_of_confirmed hc)))

/-- A subscription that is confirmed by name is about to be entered. -/
theorem fares_kept (hcomes : t.ComesTo codec peer ds (.ok (some m))) (hkeep : t.aim.purpose = .keep)
    (s : Session) :
    let n := Stage.settled t ((Call.exchanged { peer } t.aim b (.kept m s)).after ev)
    t.Fares codec peer n.stage ds [] n.replies := by
  intro n
  have hsubscribes := isSubscribe_iff.2 hkeep
  simp only [n, aim_eq hsubscribes]
  cases hc : m.confirmed t.node peer.space t.operation.transaction with
  | ok m' =>
    obtain rfl := Message.confirmed_ok hc
    obtain ⟨hanswers, hstatus, -⟩ := confirmed_iff.1 hc
    cases hsub : m'.subscription with
    | some sub =>
      refine fares_going (.registering m' sub s) (by simp [Call.exchanged, hc, hsub, Step.after]) ?_
      exact .registering hcomes ⟨hanswers, hstatus, by simp [hsub]⟩ hsubscribes hsub
    | none =>
      refine fares_over (.failed (.parseFailed .noSubscription))
        (by simp [Call.exchanged, hc, hsub, Step.after]) ?_
      exact .failed (.objected hcomes (.unnamed hanswers hstatus hsubscribes hsub))
  | error e =>
    exact fares_over (.failed e) (by simp [Call.exchanged, hc, Step.after])
      (.failed (.objected hcomes (objects_of_confirmed hc)))

/-- What a task makes of its exchange. -/
theorem fares_exchanged (hb : codec.build (t.request peer.space) = .ok b)
    (hrun : Exchange.run codec.parser peer t.aim.purpose b .connecting ds = some p)
    (h : Exchange.Reaches t.aim.purpose ds p l) :
    let n := Stage.settled t ((Call.exchanged { peer } t.aim b p).after ev)
    t.Fares codec peer n.stage ds [] n.replies := by
  have haim := aim_purpose_ne_connect t
  have hcomes {r : Except Error (Option Message)} (hr : p.outcome? = some r) :
      t.ComesTo codec peer ds r :=
    ⟨b, hb, Exchange.word_of_run haim hrun hr⟩
  cases h with
  | @busy x held => exact fares_going (.exchanging t.aim b x) rfl (.exchanging hb hrun held)
  | failed e => exact fares_over (.failed e) rfl (.failed (.broken (hcomes rfl)))
  | told => exact fares_over .sent rfl (.told (hcomes rfl))
  | @kept m s keeps => exact fares_kept (hcomes rfl) keeps s
  | @answered m gives =>
    refine fares_answered (hcomes rfl) ?_
    cases hpurpose : t.aim.purpose with
    | ask => rfl
    | connect => exact (haim hpurpose).elim
    | keep => exact (gives hpurpose).elim
    | tell =>
      have hword := Exchange.word_of_run haim hrun rfl
      rw [hpurpose] at hword
      exact (hword.told m rfl).elim

theorem fares_ended (h : t.Fares codec peer .ended ds found replies) (i : Input) :
    t.Fares codec peer (Stage.next codec peer t .ended i).stage
      (ds ++ (Stage.said? peer .ended i).toList) (found ++ (Stage.found? .ended i).toList)
      (replies ++ (Stage.next codec peer t .ended i).replies) := by
  cases i <;> simpa [Stage.next, Stage.said?, Stage.demand?, Stage.found?] using h

/-- Whatever moves a task on, it fares as the dialogue has it. -/
theorem Task.Fares.next (h : t.Fares codec peer stage ds found replies) (i : Input) :
    t.Fares codec peer (stage.next codec peer t i).stage
      (ds ++ (stage.said? peer i).toList) (found ++ (stage.found? i).toList)
      (replies ++ (stage.next codec peer t i).replies) := by
  by_cases hh : stage.Heeds peer i
  · cases h with
    | failed fails => exact fares_ended (.failed fails) i
    | told comes => exact fares_ended (.told comes) i
    | answered comes good alone => exact fares_ended (.answered comes good alone) i
    | queued =>
      cases i with
      | answer a =>
        obtain ⟨d, hd, -⟩ := hh
        cases hd
      | step free =>
        simp only [Stage.next, Call.ofCommand_command]
        cases hb : codec.build (t.request peer.space) with
        | error f => exact .failed (.unbuilt hb)
        | ok b => exact .exchanging hb rfl (.connecting rfl)
    | @exchanging b x ds built run held =>
      cases i with
      | step free => cases hh
      | answer a =>
        obtain ⟨d, hd, ha⟩ := hh
        cases hd
        rw [said?_answer rfl ha]
        exact fares_exchanged built (Exchange.run_snoc run ha)
          (held.reaches (aim_purpose_ne_connect t) ha)
    | @registering ds m subscription s comes good subscribes name =>
      cases i with
      | answer a =>
        obtain ⟨d, hd, -⟩ := hh
        cases hd
      | step free =>
        cases free with
        | true =>
          have hfares : t.Fares codec peer (.polling subscription .looking s) (ds ++ []) [true]
              (t.told (.message m) ++ []) := .followed comes good subscribes trivial
          rwa [List.append_nil (t.told _)] at hfares
        | false =>
          have hfails := Fails.objected comes (.taken good.answers good.status subscribes name)
          simpa [Stage.next, Stage.said?, Stage.found?] using Fares.failed hfails
    | followed comes good subscribes past =>
      rw [found?_past past, List.append_assoc, List.append_assoc]
      exact .followed comes good subscribes (past.next i)
  · rw [next_unheeded hh, said?_unheeded hh, found?_unheeded hh]
    simpa using h

theorem fares_course (inputs : List Input) :
    t.Fares codec peer (course codec peer t inputs).stage (dialogue codec peer t inputs)
      (findings codec peer t inputs) (course codec peer t inputs).replies := by
  induction inputs using List.reverseRecOn with
  | nil => exact .queued
  | append_singleton inputs i ih =>
    rw [course_snoc, dialogue_snoc, findings_snoc]
    exact ih.next i

end Steps

section Ends
variable {codec : Codec} {peer : Peer} {t : Task} {stage : Stage} {ds : Dialogue} {found : List Bool}
variable {replies : List Reply} {m : Message} {e e' : Error} {r : Except Error (Option Message)}

/-- A task has one thing to say against a message, unless it confirms the request. -/
theorem Task.Objects.unique (h : t.Objects peer m found e) (h' : t.Objects peer m found e') :
    e = e' := by
  cases h with
  | mismatched other =>
    cases h' with
    | mismatched => rfl
    | refused answers | unnamed answers => exact (other answers).elim
  | refused answers status =>
    cases h' with
    | mismatched other => exact (other answers).elim
    | refused => rfl
    | unnamed _ status' => exact (status status').elim
  | unnamed answers status subscribes nameless =>
    cases h' with
    | mismatched other => exact (other answers).elim
    | refused _ status' => exact (status' status).elim
    | unnamed => rfl
  | taken _ _ _ name =>
    cases h' with
    | taken _ _ _ name' => rw [Option.some.inj (name.symm.trans name')]

theorem Task.Objects.of_confirmed (h : t.Objects peer m found e) (hm : t.IsConfirmed peer m) :
    t.operation.IsSubscribe ∧ found = [false] := by
  cases h with
  | mismatched other => exact (other hm.answers).elim
  | refused _ status => exact (status hm.status).elim
  | unnamed _ _ subscribes nameless => simpa [nameless] using hm.named subscribes
  | taken _ _ subscribes => exact ⟨subscribes, rfl⟩

theorem Task.Fails.not_entered (h : t.Fails codec peer ds found e) : true ∉ found := by
  cases h with
  | unbuilt | broken => simp
  | objected _ objects => cases objects <;> simp

/-- A task whose exchange has come to its end fails by that. -/
theorem Task.Fails.of_comes (h : t.Fails codec peer ds found e) (hcomes : t.ComesTo codec peer ds r) :
    (r = .error e ∧ found = []) ∨ ∃ m, r = .ok (some m) ∧ t.Objects peer m found e := by
  cases h with
  | unbuilt hf =>
    obtain ⟨b, hb, -⟩ := hcomes
    cases hf.symm.trans hb
  | broken comes => exact .inl ⟨hcomes.same comes, rfl⟩
  | objected comes objects => exact .inr ⟨_, hcomes.same comes, objects⟩

theorem Task.Fails.unique (h : t.Fails codec peer ds found e) (h' : t.Fails codec peer ds found e') :
    e = e' := by
  cases h with
  | unbuilt hf =>
    cases h' with
    | unbuilt hf' => rw [Except.error.inj (hf.symm.trans hf')]
    | broken comes | objected comes =>
      obtain ⟨b, hb, -⟩ := comes
      cases hf.symm.trans hb
  | broken comes =>
    rcases h'.of_comes comes with ⟨he, -⟩ | ⟨m, he, -⟩
    · exact Except.error.inj he
    · cases he
  | objected comes objects =>
    rcases h'.of_comes comes with ⟨he, -⟩ | ⟨m, he, objects'⟩
    · cases he
    · cases he
      exact objects.unique objects'

/-- What has been said in full is not on its way. -/
theorem Task.ComesTo.not_underway {b : Bytes} {x : Exchange} (h : t.ComesTo codec peer ds r)
    (hb : codec.build (t.request peer.space) = .ok b) :
    Exchange.run codec.parser peer t.aim.purpose b .connecting ds ≠ some (.busy x) := by
  intro hrun
  -- An answer that fails would bring the exchange to a second end.
  obtain ⟨e, hword⟩ := Exchange.word_of_busy (aim_purpose_ne_connect t) hrun ""
  have hlater : t.ComesTo codec peer (ds ++ [(x.demand peer, .failed "")]) (.error e) := ⟨b, hb, hword⟩
  exact List.cons_ne_nil _ _ (h.unique hlater).1

/-- A task that has failed is over, and its caller was told of that and of nothing else. -/
theorem Task.Fares.of_fails (h : t.Fares codec peer stage ds found replies)
    (hf : t.Fails codec peer ds found e) (hbegun : stage ≠ .queued) :
    stage = .ended ∧ replies = t.told (.failed e) := by
  cases h with
  | queued => exact (hbegun rfl).elim
  | exchanging built run =>
    cases hf with
    | unbuilt hf => cases hf.symm.trans built
    | broken comes | objected comes => exact (comes.not_underway built run).elim
  | failed fails =>
    rw [fails.unique hf]
    exact ⟨rfl, rfl⟩
  | told comes =>
    rcases hf.of_comes comes with ⟨he, -⟩ | ⟨m, he, -⟩
    · cases he
    · cases he
  | answered comes good alone =>
    rcases hf.of_comes comes with ⟨he, -⟩ | ⟨m, he, objects⟩
    · cases he
    · cases he
      exact (alone (objects.of_confirmed good).1).elim
  | registering comes good =>
    rcases hf.of_comes comes with ⟨he, -⟩ | ⟨m, he, objects⟩
    · cases he
    · cases he
      cases (objects.of_confirmed good).2
  | followed => exact (hf.not_entered (List.mem_singleton_self true)).elim

/-- A task that has got what confirms it, and that is no subscription, is over. -/
theorem Task.Fares.of_confirmed (h : t.Fares codec peer stage ds found replies)
    (hcomes : t.ComesTo codec peer ds (.ok (some m))) (hm : t.IsConfirmed peer m)
    (halone : ¬ t.operation.IsSubscribe) : stage = .ended ∧ replies = t.told (.message m) := by
  cases h with
  | queued =>
    obtain ⟨b, -, hword⟩ := hcomes
    exact (hword.ne_nil rfl).elim
  | exchanging built run => exact (hcomes.not_underway built run).elim
  | failed fails =>
    rcases fails.of_comes hcomes with ⟨he, -⟩ | ⟨m, he, objects⟩
    · cases he
    · cases he
      exact (halone (objects.of_confirmed hm).1).elim
  | told comes => cases comes.same hcomes
  | answered comes =>
    cases comes.same hcomes
    exact ⟨rfl, rfl⟩
  | registering _ _ subscribes | followed _ _ subscribes => exact (halone subscribes).elim

end Ends
end SpaceGateway
