import Mathlib.Data.List.Induction
import SpaceGateway.Client.Desk
/-!
Clients at work, move by move: what a move can do to the table of subscriptions, and what a call has
done by its own moves. A call is moved on by its own moves only, whatever others do in between.
-/
namespace SpaceGateway

namespace Client
variable {c c' : Client} {id : SessionId} {s : Session} {k : CallId} {sub : String}

/-- What the use of sessions leaves alone: where the client goes, and its table. -/
def frame (c : Client) : Peer × List (String × SessionId) := (c.peer, c.subscriptions)

/-- What a step can do to the table: nothing, or drop an id, or enter one that is not registered in
just that spelling. -/
inductive Edits (c c' : Client) : Prop
  | same (frame : c'.frame = c.frame)
  | drops (sub : String) (peer : c'.peer = c.peer)
    (table : c'.subscriptions = c.subscriptions.filter (·.1 != sub))
  | enters (sub : String) (id : SessionId) (free : c.has sub = false) (peer : c'.peer = c.peer)
    (table : c'.subscriptions = c.subscriptions ++ [(sub, id)])

theorem Edits.peer (h : c.Edits c') : c'.peer = c.peer := by
  cases h with
  | same frame => exact congrArg Prod.fst frame
  | drops sub peer | enters sub id free peer => exact peer

@[simp] theorem frame_modify (f : Shared → Shared) : (c.modify id f).frame = c.frame := rfl

@[simp] theorem frame_put : (c.put id s).frame = c.frame := rfl

@[simp] theorem frame_letGo : (c.letGo id).1.frame = c.frame := by
  unfold letGo
  split
  · rfl
  · split <;> rfl

@[simp] theorem frame_leave : (c.leave id k).1.frame = c.frame := by
  simp [leave]

theorem edits_register (sub : String) (s : Session) : c.Edits (c.register sub s).2.1 := by
  unfold register
  split
  · exact .same rfl
  · rename_i hno
    exact .enters sub c.sessions.length (by simpa using hno) rfl rfl

theorem edits_enter (sub : String) (id : SessionId) : c.Edits (c.enter sub id).2.1 := by
  unfold enter
  split
  · exact .same rfl
  · rename_i hno
    exact .enters sub id (by simpa using hno) rfl rfl

theorem edits_unlink (h : c.unlink? sub = some (id, c')) : c.Edits c' := by
  obtain ⟨_, -, he⟩ := Option.map_eq_some_iff.1 h
  cases he
  exact .drops sub rfl rfl

end Client

section Calls
variable {parser : Parser} {c : Client} {k : CallId} {id : SessionId} {s : Session}

@[simp] theorem frame_conclude (e : Errand) (r : Except Error (Option Message)) :
    (Call.conclude c k id e s r).client.frame = c.frame := by
  simp [Call.conclude]

@[simp] theorem frame_proceed (e : Errand) (p : Session.Progress) :
    (Call.proceed c k id e p).client.frame = c.frame := by
  cases p <;> simp [Call.proceed]

@[simp] theorem frame_after (ev : List Event) (x : Step) :
    (x.after ev).client.frame = x.client.frame := rfl

@[simp] theorem frame_embark (e : Errand) :
    (Call.embark parser c k id s e).client.frame = c.frame := by
  cases e <;> simp [Call.embark]

@[simp] theorem client_exchanged (aim : Aim) (request : Bytes) (p : Exchange.Progress) :
    (Call.exchanged c aim request p).client = c := by
  unfold Call.exchanged
  repeat' split
  all_goals rfl

theorem edits_begin (call : Call) : c.Edits (call.begin c).client := by
  cases call <;> exact .same rfl

theorem edits_step (call : Call) : c.Edits (call.step parser c k).client := by
  cases call with
  | registering m subscription s =>
    have hr := @Client.edits_register c subscription s
    simp only [Call.step]
    split
    · exact hr
    · exact hr
  | looking p =>
    simp only [Call.step]
    split <;> exact .same rfl
  | removing subscription after =>
    simp only [Call.step]
    split
    · rename_i hu
      exact Client.edits_unlink hu
    · exact .same rfl
  | approaching id e => exact .same rfl
  | waiting id e =>
    simp only [Call.step]
    repeat' split
    · exact .same (frame_embark e)
    all_goals exact .same rfl
  | _ => exact .same rfl

theorem edits_resume (call : Call) (a : Answer) :
    c.Edits (call.resume parser c k a).client := by
  cases call with
  | exchanging aim request x =>
    refine .same ?_
    simp [Call.resume, Step.after]
  | acting id e act =>
    simp only [Call.resume]
    split
    · exact .same (by simp)
    · exact .same rfl
  | _ => exact .same rfl

end Calls

namespace Desk

/-- All that can happen to a client at work. -/
inductive Move
  | start (id : CallId) (command : Command)
  /-- A step of a call that needs no answer. -/
  | step (id : CallId)
  /-- The network answers a call. -/
  | resume (id : CallId) (answer : Answer)
  /-- A caller keeps a session that a call has brought. -/
  | keep (name : String) (s : Session)
  /-- A caller enters a session that it has kept. -/
  | register (name subscription : String)

def move (d : Desk) : Move → Desk
  | .start id command => (d.start id command).1
  | .step id => (d.step id).1
  | .resume id answer => (d.resume id answer).1
  | .keep name s => (d.keep name s).1
  | .register name subscription => (d.register name subscription).2.1

/-- One move after the other. -/
def moveAll (d : Desk) (moves : List Move) : Desk := moves.foldl move d

/-- A client before anything has happened to it. -/
def opening (codec : Codec) (peer : Peer) : Desk := { codec, client := { peer } }

/-- Whether a client can come to this. -/
inductive Reachable (codec : Codec) (peer : Peer) : Desk → Prop
  | opens : Reachable codec peer (opening codec peer)
  | moves {d : Desk} (h : Reachable codec peer d) (mv : Move) : Reachable codec peer (d.move mv)

/-- What is seen of a move. -/
def sees (d : Desk) : Move → List Event
  | .start id command => (d.start id command).2
  | .step id => (d.step id).2
  | .resume id answer => (d.resume id answer).2
  | .keep name s => (d.keep name s).2
  | .register name subscription => (d.register name subscription).2.2

/-- The call whose move it is. -/
def Move.caller? : Move → Option CallId
  | start id _ | step id | resume id _ => some id
  | keep .. | register .. => none

/-- The call that a move starts. -/
def Move.starts? : Move → Option CallId
  | start id _ => some id
  | _ => none

/-- Whether a call has returned this. -/
def Returned (d : Desk) (k : CallId) (r : CallResult) : Prop :=
  ∃ x ∈ d.finished, x.id = k ∧ x.result = r

/-- Whether no call of this name was ever started. -/
def Unused (d : Desk) (k : CallId) : Prop := d.started? k = none ∧ ∀ r, ¬ d.Returned k r

/-- How a call stands that was started once. -/
inductive Stands (d : Desk) (k : CallId) : CallStatus → Prop
  | going (x : Started) (started : d.started? k = some x) (unreturned : ∀ r, ¬ d.Returned k r) :
    Stands d k (.going x.call)
  | done (r : CallResult) (gone : d.started? k = none) (returned : ∀ r', d.Returned k r' ↔ r' = r) :
    Stands d k (.done r)

section Notes
variable {codec : Codec} {peer : Peer} {d : Desk} {x : Started} {s : Step} {j k : CallId}
variable {r : CallResult} {mv : Move}

@[simp] theorem moveAll_nil : d.moveAll [] = d := rfl

@[simp] theorem moveAll_cons (mv : Move) (rest : List Move) :
    d.moveAll (mv :: rest) = (d.move mv).moveAll rest := rfl

@[simp] theorem moveAll_append (l l' : List Move) :
    d.moveAll (l ++ l') = (d.moveAll l).moveAll l' := by
  simp [moveAll]

theorem reachable_moveAll (h : Reachable codec peer d) (moves : List Move) :
    Reachable codec peer (d.moveAll moves) := by
  induction moves generalizing d with
  | nil => exact h
  | cons mv rest ih => exact ih (h.moves mv)

@[simp] theorem client_note : (d.note x s).1.client = s.client := by
  unfold note
  cases s.status <;> rfl

@[simp] theorem codec_note : (d.note x s).1.codec = d.codec := by
  unfold note
  cases s.status <;> rfl

@[simp] theorem events_note : (d.note x s).2 = s.events := by
  unfold note
  cases s.status <;> rfl

theorem id_of_started (h : d.started? k = some x) : x.id = k := by
  simpa using List.find?_some h

/-- A call that goes on is the only one of which a note is taken. -/
theorem started?_note_going {call : Call} (hs : s.status = .going call) (j : CallId) :
    ∃ heard, (d.note x s).1.started? j =
      (d.started? j).map fun y => if y.id = x.id then { x with call, heard } else y := by
  simp only [note, hs, started?, List.find?_map]
  generalize x.heard ++ _ = heard
  refine ⟨heard, ?_⟩
  congr 2
  funext y
  by_cases hy : y.id = x.id <;> simp [hy]

theorem started?_note_done (hs : s.status = .done r) (j : CallId) :
    (d.note x s).1.started? j = if x.id = j then none else d.started? j := by
  simp only [note, hs, started?, List.find?_filter]
  split
  · rename_i hj
    simp [← hj]
  · rename_i hj
    congr 1
    funext y
    by_cases hy : y.id = j
    · simp [hy, Ne.symm hj]
    · simp [hy]

theorem returned_note_going {call : Call} (hs : s.status = .going call) :
    (d.note x s).1.Returned j r ↔ d.Returned j r := by
  simp [note, hs, Returned]

theorem returned_note_done {r' : CallResult} (hs : s.status = .done r') :
    (d.note x s).1.Returned j r ↔ d.Returned j r ∨ x.id = j ∧ r' = r := by
  simp [note, hs, Returned, or_and_right, exists_or]

/-- After a step of its own a call stands as the step has it. -/
theorem stands_note (h : d.started? k = some x) (hr : ∀ r, ¬ d.Returned k r) :
    (d.note x s).1.Stands k s.status := by
  have hk := id_of_started h
  cases hs : s.status with
  | going call =>
    obtain ⟨heard, hstarted⟩ := @started?_note_going d x s call hs k
    rw [h, Option.map_some, if_pos rfl] at hstarted
    exact .going _ hstarted fun r hret => hr r ((returned_note_going hs).1 hret)
  | done r =>
    refine .done r ?_ fun r' => ?_
    · rw [started?_note_done hs, if_pos hk]
    · simp [returned_note_done hs, hr, hk, eq_comm]

theorem stands_going {call : Call} (h : (d.started? k).map (·.call) = some call)
    (hr : d.finished.all (·.id != k) = true) : d.Stands k (.going call) := by
  obtain ⟨x, hx, rfl⟩ := Option.map_eq_some_iff.1 h
  refine .going x hx ?_
  rintro r ⟨y, hy, hid, -⟩
  simpa [hid] using List.all_eq_true.1 hr y hy

/-- A note of another call. -/
theorem note_other (hne : x.id ≠ j) :
    (d.note x s).1.started? j = d.started? j ∧
      ∀ r, (d.note x s).1.Returned j r ↔ d.Returned j r := by
  cases hs : s.status with
  | going call =>
    obtain ⟨heard, hstarted⟩ := @started?_note_going d x s call hs j
    refine ⟨?_, fun r => returned_note_going hs⟩
    rw [hstarted]
    cases hj : d.started? j with
    | none => rfl
    | some y =>
      have hy := id_of_started hj
      simp [hy, Ne.symm hne]
  | done r' =>
    refine ⟨by rw [started?_note_done hs, if_neg hne], fun r => ?_⟩
    simp [returned_note_done hs, hne]

theorem started?_append (d : Desk) (x : Started) (j : CallId) :
    ({ d with calls := d.calls ++ [x] } : Desk).started? j =
      (d.started? j).or (if x.id = j then some x else none) := by
  simp only [started?, List.find?_append, List.find?_singleton, decide_eq_true_eq]

theorem forget_calls (name : String) :
    (d.forget name).1.calls = d.calls ∧ (d.forget name).1.finished = d.finished ∧
      (d.forget name).1.codec = d.codec ∧ (d.forget name).1.client.frame = d.client.frame := by
  unfold forget
  split
  · exact ⟨rfl, rfl, rfl, rfl⟩
  · exact ⟨rfl, rfl, rfl, Client.frame_letGo⟩

theorem register_calls (name subscription : String) :
    (d.register name subscription).2.1.calls = d.calls ∧
      (d.register name subscription).2.1.finished = d.finished ∧
      (d.register name subscription).2.1.codec = d.codec := by
  unfold register
  split
  · exact ⟨rfl, rfl, rfl⟩
  · split
    · exact ⟨rfl, rfl, rfl⟩
    · exact ⟨(forget_calls name).1, (forget_calls name).2.1, (forget_calls name).2.2.1⟩

/-- A move of others leaves a call as it is. -/
theorem move_other (hmv : mv.caller? ≠ some k) : (d.move mv).started? k = d.started? k ∧
    ∀ r, (d.move mv).Returned k r ↔ d.Returned k r := by
  have hsame {d' : Desk} (hc : d'.calls = d.calls) (hf : d'.finished = d.finished) :
      d'.started? k = d.started? k ∧ ∀ r, d'.Returned k r ↔ d.Returned k r := by
    simp [started?, Returned, hc, hf]
  cases mv with
  | start j command =>
    have hne : j ≠ k := fun he => hmv (congrArg some he)
    simp only [move, start]
    split
    · refine ⟨rfl, fun r => ?_⟩
      simp [Returned, or_and_right, exists_or, hne]
    · rename_i call hcall
      have hnote := @note_other { d with calls := d.calls ++ [⟨j, call, []⟩] } ⟨j, call, []⟩
        (call.begin d.client) k hne
      refine ⟨hnote.1.trans ?_, hnote.2⟩
      rw [started?_append]
      simp [hne]
  | step j =>
    have hne : j ≠ k := fun he => hmv (congrArg some he)
    simp only [move, step]
    split
    · rename_i x hx
      exact note_other (id_of_started hx ▸ hne)
    · exact ⟨rfl, fun r => Iff.rfl⟩
  | resume j a =>
    have hne : j ≠ k := fun he => hmv (congrArg some he)
    simp only [move, resume]
    split
    · rename_i x hx
      exact note_other (id_of_started hx ▸ hne)
    · exact ⟨rfl, fun r => Iff.rfl⟩
  | keep name s => exact hsame (forget_calls name).1 (forget_calls name).2.1
  | register name subscription =>
    exact hsame (register_calls name subscription).1 (register_calls name subscription).2.1

theorem Stands.returned_iff {st : CallStatus} (h : d.Stands k st) : d.Returned k r ↔ st = .done r := by
  cases h with
  | going x started unreturned => simp [unreturned]
  | done r' gone returned => simp [returned, eq_comm]

theorem Stands.move_other {st : CallStatus} (h : d.Stands k st) (hmv : mv.caller? ≠ some k) :
    (d.move mv).Stands k st := by
  obtain ⟨hstarted, hreturned⟩ := Desk.move_other (d := d) hmv
  cases h with
  | going x started unreturned =>
    exact .going x (hstarted.trans started) fun r hr => unreturned r ((hreturned r).1 hr)
  | done r gone returned =>
    exact .done r (hstarted.trans gone) fun r' => (hreturned r').trans (returned r')

/-- A call that is not going cannot be moved on. -/
theorem move_absent (h : d.started? k = none) (hmv : mv.starts? ≠ some k)
    (hc : mv.caller? = some k) : d.move mv = d := by
  cases mv with
  | start => exact (hmv hc).elim
  | keep | register => cases hc
  | step j | resume j =>
    cases hc
    simp only [move, step, resume, h]

theorem Unused.move_other (h : d.Unused k) (hmv : mv.starts? ≠ some k) : (d.move mv).Unused k := by
  by_cases hc : mv.caller? = some k
  · exact (move_absent h.1 hmv hc).symm ▸ h
  · obtain ⟨hstarted, hreturned⟩ := Desk.move_other (d := d) hc
    exact ⟨hstarted.trans h.1, fun r hr => h.2 r ((hreturned r).1 hr)⟩

@[simp] theorem codec_move (d : Desk) (mv : Move) : (d.move mv).codec = d.codec := by
  cases mv with
  | start j command =>
    simp only [move, start]
    split
    · rfl
    · exact codec_note
  | step j | resume j a =>
    simp only [move, step, resume]
    split
    · exact codec_note
    · rfl
  | keep name s => exact (forget_calls name).2.2.1
  | register name subscription => exact (register_calls name subscription).2.2

theorem finished_note : d.finished <+: (d.note x s).1.finished := by
  unfold note
  cases s.status with
  | going => exact List.prefix_rfl
  | done => exact List.prefix_append ..

/-- What is done stays on record. -/
theorem finished_move (d : Desk) (mv : Move) : d.finished <+: (d.move mv).finished := by
  cases mv with
  | start j command =>
    simp only [move, start]
    split
    · exact List.prefix_append ..
    · rename_i call _
      exact @finished_note { d with calls := d.calls ++ [⟨j, call, []⟩] } _ _
  | step j | resume j a =>
    simp only [move, step, resume]
    split
    · exact finished_note
    · exact List.prefix_rfl
  | keep name s => exact (forget_calls name).2.1 ▸ List.prefix_rfl
  | register name subscription => exact (register_calls name subscription).2.1 ▸ List.prefix_rfl

theorem Returned.moveAll {l : List Move} (h : d.Returned k r) : (d.moveAll l).Returned k r := by
  induction l generalizing d with
  | nil => exact h
  | cons mv rest ih =>
    obtain ⟨x, hx, hid, hr⟩ := h
    exact ih ⟨x, (finished_move d mv).mem hx, hid, hr⟩

/-- Every move drops an id, enters one, or leaves the table as it is. -/
theorem edits_move (d : Desk) (mv : Move) : d.client.Edits (d.move mv).client := by
  cases mv with
  | start j command =>
    simp only [move, start]
    split
    · exact .same rfl
    · rw [client_note]
      exact edits_begin _
  | step j =>
    simp only [move, step]
    split
    · rw [client_note]
      exact edits_step _
    · exact .same rfl
  | resume j a =>
    simp only [move, resume]
    split
    · rw [client_note]
      exact edits_resume _ _
    · exact .same rfl
  | keep name s => exact .same (forget_calls name).2.2.2
  | register name subscription =>
    simp only [move, register]
    split
    · exact .same rfl
    · split
      · exact Client.edits_enter subscription _
      · exact .same (forget_calls name).2.2.2

end Notes

/-- One move of a call: the client before and after it, what the call asked of the network and was
answered, and what was seen. -/
structure Deed where
  before : Client
  after : Client
  said : Option (Demand × Answer)
  seen : List Event

def Deed.ofStep (c : Client) (said : Option (Demand × Answer)) (s : Step) : Deed :=
  ⟨c, s.client, said, s.events⟩

end Desk

/-- What an answer adds to what a call has said to the network. An answer of the wrong kind adds
nothing. -/
def Call.said? (c : Client) (k : CallId) (call : Call) (a : Answer) : Option (Demand × Answer) :=
  match call.need c k with
  | .answer d => if (d.record? a).isSome then some (d, a) else none
  | _ => none

namespace Desk

/-- What a call does by a move, if it takes part in it. -/
def deed? (d : Desk) (k : CallId) (mv : Move) : Option Deed :=
  let deed (said : Option (Demand × Answer)) : Deed :=
    ⟨d.client, (d.move mv).client, said, d.sees mv⟩
  match mv with
  | .start j _ => if j = k then some (deed none) else none
  | .step j => if j = k then (d.started? k).map fun _ => deed none else none
  | .resume j a =>
    if j = k then (d.started? k).map fun x => deed (x.call.said? d.client k a) else none
  | .keep .. | .register .. => none

/-- All that a call does in a run. -/
def deeds (k : CallId) : Desk → List Move → List Deed
  | _, [] => []
  | d, mv :: rest => (d.deed? k mv).toList ++ deeds k (d.move mv) rest

/-- Whether a call is made once in a run, by this command. -/
structure Makes (d : Desk) (k : CallId) (command : Command) (moves : List Move) : Prop where
  unused : d.Unused k
  once : moves.filter (fun mv => mv.starts? = some k) = [.start k command]

section Deeds
variable {d : Desk} {k : CallId} {x : Started} {moves : List Move} {mv : Move} {call : Call}
variable {command : Command} {codec : Codec} {peer : Peer}

theorem deeds_append (l l' : List Move) :
    d.deeds k (l ++ l') = d.deeds k l ++ (d.moveAll l).deeds k l' := by
  induction l generalizing d with
  | nil => rfl
  | cons mv rest ih => simp [deeds, ih]

theorem deeds_snoc :
    d.deeds k (moves ++ [mv]) = d.deeds k moves ++ ((d.moveAll moves).deed? k mv).toList := by
  simp [deeds_append, deeds]

theorem deed?_clients {x : Deed} (h : d.deed? k mv = some x) :
    x.before = d.client ∧ x.after = (d.move mv).client := by
  cases mv with
  | start j command =>
    obtain ⟨-, h⟩ := Option.ite_none_right_eq_some.1 h
    cases h
    exact ⟨rfl, rfl⟩
  | step j | resume j a =>
    obtain ⟨-, h⟩ := Option.ite_none_right_eq_some.1 h
    obtain ⟨_, -, rfl⟩ := Option.map_eq_some_iff.1 h
    exact ⟨rfl, rfl⟩
  | keep | register => cases h

theorem deed?_other (hmv : mv.caller? ≠ some k) : d.deed? k mv = none := by
  cases mv with
  | start j | step j | resume j => exact if_neg fun he => hmv (congrArg some he)
  | keep | register => rfl

theorem deed?_idle (h : d.started? k = none) (hmv : mv.starts? ≠ some k) : d.deed? k mv = none := by
  cases mv with
  | start j => exact if_neg fun he => hmv (congrArg some he)
  | step j | resume j => simp [deed?, h]
  | keep | register => rfl

/-- A client that has just opened has made no call. -/
theorem Makes.of_opening
    (h : moves.filter (fun mv => mv.starts? = some k) = [.start k command]) :
    (opening codec peer).Makes k command moves := by
  refine ⟨⟨rfl, ?_⟩, h⟩
  rintro r ⟨x, hx, -⟩
  cases hx

/-- A call that is made once was unused before. -/
theorem Makes.split (h : d.Makes k command moves) : ∃ pre post,
    moves = pre ++ .start k command :: post ∧ (d.moveAll pre).Unused k ∧ d.deeds k pre = [] ∧
      ∀ mv ∈ post, mv.starts? ≠ some k := by
  obtain ⟨pre, post, rfl, hpre, -, hpost⟩ := List.filter_eq_cons_iff.1 h.once
  have hunused : (d.moveAll pre).Unused k ∧ d.deeds k pre = [] := by
    have hd := h.unused
    clear h
    induction pre generalizing d with
    | nil => exact ⟨hd, rfl⟩
    | cons mv rest ih =>
      have hmv : mv.starts? ≠ some k := by simpa using hpre mv List.mem_cons_self
      obtain ⟨hrest, hdeeds⟩ := ih (fun y hy => hpre y (List.mem_cons_of_mem mv hy))
        (hd.move_other hmv)
      exact ⟨hrest, by rw [deeds, hdeeds, deed?_idle hd.1 hmv]; rfl⟩
  refine ⟨pre, post, rfl, hunused.1, hunused.2, fun mv hmv => ?_⟩
  simpa using List.filter_eq_nil_iff.1 hpost mv hmv

@[simp] theorem codec_moveAll (d : Desk) (moves : List Move) :
    (d.moveAll moves).codec = d.codec := by
  induction moves generalizing d with
  | nil => rfl
  | cons mv rest ih => exact (ih (d.move mv)).trans (codec_move d mv)

@[simp] theorem peer_moveAll (d : Desk) (moves : List Move) :
    (d.moveAll moves).client.peer = d.client.peer := by
  induction moves generalizing d with
  | nil => rfl
  | cons mv rest ih => exact (ih (d.move mv)).trans (edits_move d mv).peer

theorem start_built (hcall : Call.ofCommand d.codec d.client.peer command = .ok call)
    (hd : d.Unused k) :
    d.deed? k (.start k command) = some (.ofStep d.client none (call.begin d.client)) ∧
      (d.move (.start k command)).Stands k (call.begin d.client).status := by
  have hstart : d.start k command = Desk.note { d with calls := d.calls ++ [⟨k, call, []⟩] }
      ⟨k, call, []⟩ (call.begin d.client) := by
    simp only [start, hcall]
  constructor
  · simp [deed?, move, sees, hstart, Deed.ofStep]
  · simp only [move, hstart]
    refine stands_note ?_ hd.2
    rw [started?_append, hd.1]
    simp

theorem start_unbuilt {f : CodecFault} (hd : d.Unused k)
    (hcall : Call.ofCommand d.codec d.client.peer command = .error f) :
    d.deed? k (.start k command) = some ⟨d.client, d.client, none, []⟩ ∧
      (d.move (.start k command)).Stands k (.done (.failed (.codec f))) := by
  have hstart : d.start k command =
      ({ d with finished := d.finished ++ [⟨k, .failed (.codec f), []⟩] }, []) := by
    simp only [start, hcall]
  constructor
  · simp [deed?, move, sees, hstart]
  · simp only [move, hstart]
    refine .done _ hd.1 fun r => ?_
    have hno : ¬ ∃ x ∈ d.finished, x.id = k ∧ x.result = r := hd.2 r
    simp only [Returned, List.mem_append, List.mem_singleton, or_and_right, exists_or, hno, false_or,
      exists_eq_left, true_and]
    exact eq_comm

theorem Stands.step (h : d.Stands k (.going call)) :
    d.deed? k (.step k) = some (.ofStep d.client none (call.step d.codec.parser d.client k)) ∧
      (d.move (.step k)).Stands k (call.step d.codec.parser d.client k).status := by
  cases h with
  | going x started unreturned =>
    constructor
    · simp [deed?, move, sees, Desk.step, started, Deed.ofStep]
    · simp only [move, Desk.step, started]
      exact stands_note started unreturned

theorem Stands.resume (h : d.Stands k (.going call)) (a : Answer) :
    d.deed? k (.resume k a) = some (.ofStep d.client (call.said? d.client k a)
        (call.resume d.codec.parser d.client k a)) ∧
      (d.move (.resume k a)).Stands k (call.resume d.codec.parser d.client k a).status := by
  cases h with
  | going x started unreturned =>
    constructor
    · simp [deed?, move, sees, Desk.resume, started, Deed.ofStep]
    · simp only [move, Desk.resume, started]
      exact stands_note started unreturned

/-- Nothing moves a call that has returned. -/
theorem Stands.done_move {r : CallResult} (h : d.Stands k (.done r)) (hmv : mv.starts? ≠ some k) :
    d.deed? k mv = none ∧ (d.move mv).Stands k (.done r) := by
  have hover : d.started? k = none := by
    cases h with
    | done r gone => exact gone
  refine ⟨deed?_idle hover hmv, ?_⟩
  by_cases hc : mv.caller? = some k
  · exact (move_absent hover hmv hc).symm ▸ h
  · exact h.move_other hc

section Runs
variable {P : List Move → List Deed → CallStatus → Prop}

/-- What the start of a call brings about, and its own moves keep as well as all that others do, holds
at the end of every run in which the call is made once. -/
theorem Makes.follow (h : d.Makes k command moves)
    (starts : ∀ pre, (d.moveAll pre).Unused k → d.deeds k pre = [] →
      ∃ x st, (d.moveAll pre).deed? k (.start k command) = some x ∧
        ((d.moveAll pre).move (.start k command)).Stands k st ∧ P (pre ++ [.start k command]) [x] st)
    (steps : ∀ pre l call, (d.moveAll pre).Stands k (.going call) → P pre l (.going call) →
      let s := call.step d.codec.parser (d.moveAll pre).client k
      P (pre ++ [.step k]) (l ++ [.ofStep (d.moveAll pre).client none s]) s.status)
    (resumes : ∀ pre l call a, (d.moveAll pre).Stands k (.going call) → P pre l (.going call) →
      let s := call.resume d.codec.parser (d.moveAll pre).client k a
      P (pre ++ [.resume k a]) (l ++ [.ofStep (d.moveAll pre).client
        (call.said? (d.moveAll pre).client k a) s]) s.status)
    (others : ∀ pre l st mv, (d.moveAll pre).deed? k mv = none → P pre l st →
      P (pre ++ [mv]) l st) :
    ∃ st, P moves (d.deeds k moves) st ∧ (d.moveAll moves).Stands k st := by
  obtain ⟨pre, post, rfl, hunused, hpre, hpost⟩ := h.split
  clear h
  induction post using List.reverseRecOn with
  | nil =>
    obtain ⟨x, st, hx, hst, hP⟩ := starts pre hunused hpre
    refine ⟨st, ?_, by simpa using hst⟩
    rwa [deeds_snoc, hpre, hx]
  | append_singleton post mv ih =>
    obtain ⟨st, hP, hst⟩ := ih fun y hy => hpost y (List.mem_append_left _ hy)
    have hmv : mv.starts? ≠ some k := hpost mv (by simp)
    rw [← List.cons_append, ← List.append_assoc]
    generalize pre ++ .start k command :: post = run at hP hst
    rw [deeds_snoc, moveAll_append, moveAll_cons, moveAll_nil]
    cases st with
    | done r =>
      obtain ⟨hnone, hst⟩ := hst.done_move hmv
      rw [hnone, Option.toList_none, List.append_nil]
      exact ⟨_, others _ _ _ _ hnone hP, hst⟩
    | going call =>
      by_cases hc : mv.caller? = some k
      · cases mv with
        | start => exact (hmv hc).elim
        | keep | register => cases hc
        | step j =>
          cases hc
          obtain ⟨hx, hnext⟩ := hst.step
          rw [codec_moveAll] at hx hnext
          exact ⟨_, hx ▸ steps _ _ _ hst hP, hnext⟩
        | resume j a =>
          cases hc
          obtain ⟨hx, hnext⟩ := hst.resume a
          rw [codec_moveAll] at hx hnext
          exact ⟨_, hx ▸ resumes _ _ _ a hst hP, hnext⟩
      · have hnone : (d.moveAll run).deed? k mv = none := deed?_other hc
        rw [hnone, Option.toList_none, List.append_nil]
        exact ⟨_, others _ _ _ _ hnone hP, hst.move_other hc⟩

/-- The course of a call that can be carried out. -/
theorem Makes.induction (h : d.Makes k command moves)
    (hcall : Call.ofCommand d.codec d.client.peer command = .ok call)
    (begins : ∀ pre, P (pre ++ [.start k command])
      [.ofStep (d.moveAll pre).client none (call.begin (d.moveAll pre).client)]
      (call.begin (d.moveAll pre).client).status)
    (steps : ∀ pre l call, (d.moveAll pre).Stands k (.going call) → P pre l (.going call) →
      let s := call.step d.codec.parser (d.moveAll pre).client k
      P (pre ++ [.step k]) (l ++ [.ofStep (d.moveAll pre).client none s]) s.status)
    (resumes : ∀ pre l call a, (d.moveAll pre).Stands k (.going call) → P pre l (.going call) →
      let s := call.resume d.codec.parser (d.moveAll pre).client k a
      P (pre ++ [.resume k a]) (l ++ [.ofStep (d.moveAll pre).client
        (call.said? (d.moveAll pre).client k a) s]) s.status)
    (others : ∀ pre l st mv, P pre l st → P (pre ++ [mv]) l st) :
    ∃ st, P moves (d.deeds k moves) st ∧ (d.moveAll moves).Stands k st := by
  refine h.follow ?_ steps resumes fun pre l st mv _ => others pre l st mv
  intro pre hunused _
  have hbuilt : Call.ofCommand (d.moveAll pre).codec (d.moveAll pre).client.peer command = .ok call := by
    simpa using hcall
  obtain ⟨hx, hst⟩ := start_built hbuilt hunused
  exact ⟨_, _, hx, hst, begins pre⟩

/-- A command that cannot be carried out fails at once. -/
theorem Makes.unbuilt {f : CodecFault} (h : d.Makes k command moves)
    (hcall : Call.ofCommand d.codec d.client.peer command = .error f) :
    (∃ c, d.deeds k moves = [⟨c, c, none, []⟩]) ∧
      (d.moveAll moves).Stands k (.done (.failed (.codec f))) := by
  have hrun := h.follow (P := fun _ l st =>
    (∃ c, l = [⟨c, c, none, []⟩]) ∧ st = .done (.failed (.codec f))) ?_ ?_ ?_ ?_
  · obtain ⟨st, ⟨hdeeds, rfl⟩, hst⟩ := hrun
    exact ⟨hdeeds, hst⟩
  · intro pre hunused _
    have hbuilt : Call.ofCommand (d.moveAll pre).codec (d.moveAll pre).client.peer command =
        .error f := by
      simpa using hcall
    obtain ⟨hx, hst⟩ := start_unbuilt hunused hbuilt
    exact ⟨_, _, hx, hst, ⟨_, rfl⟩, rfl⟩
  · rintro pre l call - ⟨-, hst⟩
    cases hst
  · rintro pre l call a - ⟨-, hst⟩
    cases hst
  · exact fun _ _ _ _ _ hP => hP

end Runs
end Deeds
end Desk
end SpaceGateway
