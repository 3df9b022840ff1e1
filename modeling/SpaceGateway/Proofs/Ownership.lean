import SpaceGateway.Proofs.Bookkeeping
/-!
Who owns what in the clients of the servers. Every shared session was put there for one task, which
alone uses it; while its subscription is in the table the task runs, and when the task is over the
session is closed.
-/
namespace SpaceGateway

/-- Where no key comes twice, a lookup finds every entry. -/
theorem lookup_eq_some_iff {κ α : Type} [BEq κ] [LawfulBEq κ] {l : List (κ × α)} {k : κ} {a : α}
    (h : (l.map (·.1)).Nodup) : l.lookup k = some a ↔ (k, a) ∈ l := by
  induction l with
  | nil => simp
  | cons e l ih =>
    obtain ⟨k', a'⟩ := e
    rw [List.map_cons, List.nodup_cons] at h
    rw [List.lookup_cons, List.mem_cons]
    by_cases he : k = k'
    · subst he
      have hn : (k, a) ∉ l := by
        intro hm
        exact h.1 (List.mem_map.2 ⟨(k, a), hm, rfl⟩)
      simp [hn, eq_comm]
    · have hb : (k == k') = false := by simpa using he
      simp [hb, he, ih h.2]

namespace Client
variable {c : Client} {sub sub' : String} {id id' : SessionId}

/-- Whether the subscriptions of the table are told apart by their names. -/
def HasKeys (c : Client) : Prop := (c.subscriptions.map (·.1)).Nodup

theorem find?_iff (h : c.HasKeys) : c.find? sub = some id ↔ (sub, id) ∈ c.subscriptions :=
  lookup_eq_some_iff h

theorem not_mem_of_has (h : c.HasKeys) (hs : c.has sub = false) : (sub, id) ∉ c.subscriptions := by
  intro hm
  rw [has, (find?_iff h).2 hm] at hs
  cases hs

end Client

/-- What may become of a client in one step of a task that owns the session `own?` and may enter
another one. -/
structure Client.Follows (c c' : Client) (own? : Option SessionId)
    (new? : Option (String × SessionId)) : Prop where
  peer : c'.peer = c.peer
  kept : ∀ (id : SessionId) (x : Shared), c.sessions[id]? = some x → own? ≠ some id →
    c'.sessions[id]? = some x
  stays : ∀ (id : SessionId) (x : Shared), c.sessions[id]? = some x →
    ∃ x', c'.sessions[id]? = some x'
  fresh : ∀ (id : SessionId) (x : Shared), c'.sessions[id]? = some x →
    (∃ x₀, c.sessions[id]? = some x₀) ∨ ∃ sub, new? = some (sub, id)
  entries : ∀ sub id, (sub, id) ∈ c'.subscriptions →
    (sub, id) ∈ c.subscriptions ∨ new? = some (sub, id)
  others : ∀ sub id, (sub, id) ∈ c.subscriptions → own? ≠ some id → (sub, id) ∈ c'.subscriptions
  keys : c'.HasKeys
  new : ∀ sub id, new? = some (sub, id) →
    c.sessions[id]? = none ∧ (sub, id) ∈ c'.subscriptions ∧ ∃ x, c'.sessions[id]? = some x

section Steps
variable {c c' : Client} {w : WorkerId} {t : Task} {own : Option Holding} {call? : Option Call}
variable {stage : Stage}

theorem Client.follows_refl (h : c.HasKeys) (own? : Option SessionId) :
    c.Follows c own? none where
  peer := rfl
  kept _ _ hx _ := hx
  stays _ x hx := ⟨x, hx⟩
  fresh _ x hx := .inl ⟨x, hx⟩
  entries _ _ hm := .inl hm
  others _ _ hm _ := hm
  keys := h
  new _ _ hn := by cases hn

theorem Client.follows_enters (h : c.HasKeys) {sub : String} {s : Session}
    (hs : c.has sub = false) :
    c.Follows { c with
      sessions := c.sessions ++ [⟨s, [], 1⟩]
      subscriptions := c.subscriptions ++ [(sub, c.sessions.length)] } none
      (some (sub, c.sessions.length)) where
  peer := rfl
  kept id x hx _ := by
    obtain ⟨hl, -⟩ := List.getElem?_eq_some_iff.1 hx
    rwa [List.getElem?_append_left hl]
  stays id x hx := by
    obtain ⟨hl, -⟩ := List.getElem?_eq_some_iff.1 hx
    exact ⟨x, by rwa [List.getElem?_append_left hl]⟩
  fresh id x hx := by
    rcases Nat.lt_or_ge id c.sessions.length with hl | hl
    · exact .inl ⟨_, List.getElem?_eq_getElem hl⟩
    · obtain ⟨hl', -⟩ := List.getElem?_eq_some_iff.1 hx
      have he : id = c.sessions.length := by
        simp only [List.length_append, List.length_singleton] at hl'
        exact Nat.le_antisymm (Nat.le_of_lt_succ hl') hl
      exact .inr ⟨sub, by rw [he]⟩
  entries sub' id hm := by
    rcases List.mem_append.1 hm with hm | hm
    · exact .inl hm
    · rw [List.mem_singleton.1 hm]
      exact .inr rfl
  others _ _ hm _ := List.mem_append_left _ hm
  keys := by
    unfold HasKeys
    rw [List.map_append]
    refine List.nodup_append.2 ⟨h, by simp, ?_⟩
    intro a ha b hb he
    obtain ⟨⟨s', id⟩, hm, rfl⟩ := List.mem_map.1 ha
    simp only [List.map_cons, List.map_nil, List.mem_singleton] at hb
    have he' : s' = sub := he.trans hb
    exact not_mem_of_has h hs (he' ▸ hm)
  new sub' id hn := by
    cases hn
    exact ⟨List.getElem?_eq_none (Nat.le_refl _), List.mem_append_right _ (by simp), _,
      List.getElem?_concat_length⟩

theorem Client.follows_withShared (h : c.HasKeys) {id : SessionId} {x y : Shared}
    (hx : c.sessions[id]? = some x) : c.Follows (c.withShared id y) (some id) none where
  peer := rfl
  kept id' x' hx' hne := by
    rwa [sessions_withShared_ne]
    intro he
    exact hne (by rw [he])
  stays id' x' hx' := by
    by_cases he : id' = id
    · subst he
      exact ⟨y, sessions_withShared hx⟩
    · exact ⟨x', by rwa [sessions_withShared_ne he]⟩
  fresh id' x' hx' := by
    by_cases he : id' = id
    · subst he
      exact .inl ⟨x, hx⟩
    · rw [sessions_withShared_ne he] at hx'
      exact .inl ⟨x', hx'⟩
  entries _ _ hm := .inl hm
  others _ _ hm _ := hm
  keys := h
  new _ _ hn := by cases hn

theorem Client.follows_unlisted (h : c.HasKeys) {id : SessionId} {x y : Shared} {sub : String}
    (hx : c.sessions[id]? = some x) (hm : (sub, id) ∈ c.subscriptions) :
    c.Follows { c.withShared id y with subscriptions := c.subscriptions.filter (·.1 != sub) }
      (some id) none where
  peer := rfl
  kept := (follows_withShared h hx).kept
  stays := (follows_withShared h hx).stays
  fresh := (follows_withShared h hx).fresh
  entries _ _ hm' := .inl (List.mem_of_mem_filter hm')
  others sub' id' hm' hne := by
    refine List.mem_filter.2 ⟨hm', ?_⟩
    simp only [bne_iff_ne, ne_eq]
    intro he
    subst he
    have h₁ := (find?_iff h).2 hm
    have h₂ := (find?_iff h).2 hm'
    rw [h₁] at h₂
    exact hne h₂
  keys := h.sublist (List.filter_sublist.map _)
  new _ _ hn := by cases hn

/-- Whether the table has a session for a task as it should. -/
def Holding.IsIn (h : Holding) (c : Client) : Prop :=
  ∀ sub, (sub, h.id) ∈ c.subscriptions ↔ h.isListed = true ∧ sub = h.subscription

/-- How a task stands to its client after a step: while it goes on, the client shows it; when it is
over, its session is closed and not in the table. -/
structure Settles (c' : Client) (w : WorkerId) (t : Task) (own : Option Holding)
    (call? : Option Call) (stage : Stage) : Prop where
  going : ∀ call, call? = some call → Shows c' w t call stage own
  ended : call? = none → stage = .ended
  table : ∀ h, own = some h → h.IsIn c'
  closed : ∀ h x, own = some h → call? = none → c'.sessions[h.id]? = some x →
    x.session.isOpen = false ∧ h.isListed = false

theorem settles_alone (call : Call) :
    Settles c w t none (some call) (.calling call) := by
  refine ⟨?_, ?_, ?_, ?_⟩
  · intro call' hc
    cases hc
    exact .alone rfl
  all_goals simp

theorem settles_fails : Settles c w t none none .ended := by
  refine ⟨?_, ?_, ?_, ?_⟩
  all_goals simp

variable {h : Holding} {f : Footprint} {sub : String} {s : Session} {x : Shared}

theorem settles_enters (hk : c.HasKeys) (hs : c.has sub = false)
    (hids : ∀ sub id, (sub, id) ∈ c.subscriptions → id < c.sessions.length) :
    Settles { c with
      sessions := c.sessions ++ [⟨s, [], 1⟩]
      subscriptions := c.subscriptions ++ [(sub, c.sessions.length)] } w t
      (some ⟨c.sessions.length, sub, true⟩) (some (.looking ⟨t.node, sub, true⟩))
      (.polling sub .looking s) := by
  have hf := @Client.follows_enters c hk sub s hs
  obtain ⟨-, hm, -⟩ := hf.new sub _ rfl
  refine ⟨?_, ?_, ?_, ?_⟩
  · intro call hc
    cases hc
    refine .sharing _ ⟨_, ⟨s, [], 1⟩, true⟩ rfl rfl rfl List.getElem?_concat_length rfl ?_
    intro _
    exact (Client.find?_iff hf.keys).2 hm
  · simp
  · intro h he sub'
    cases he
    have hn : (sub', c.sessions.length) ∉ c.subscriptions := by
      intro hm'
      exact Nat.lt_irrefl _ (hids _ _ hm')
    simp [hn]
  · simp

theorem settles_stays (hk : c.HasKeys) (hx : c.sessions[h.id]? = some x) (hin : h.IsIn c)
    (hg : stage.footprint? t.node w h.id = some f) (hsub : stage.subscription? = some h.subscription)
    (hl : f.isListed = h.isListed) :
    Settles (c.withShared h.id f.shared) w t (some h) (some f.call) stage := by
  have hf := @Client.follows_withShared c hk h.id x f.shared hx
  refine ⟨?_, ?_, ?_, ?_⟩
  · intro call hc
    cases hc
    refine .sharing h f hg hsub rfl (Client.sessions_withShared hx) hl ?_
    intro hlist
    exact (Client.find?_iff hf.keys).2 ((hin _).2 ⟨hlist, rfl⟩)
  · simp
  · intro h' he
    cases he
    exact hin
  · simp

theorem settles_unlists (hx : c.sessions[h.id]? = some x) (hin : h.IsIn c)
    (hg : stage.footprint? t.node w h.id = some f) (hsub : stage.subscription? = some h.subscription)
    (ha : f.isListed = false) :
    Settles { c.withShared h.id f.shared with
      subscriptions := c.subscriptions.filter (·.1 != h.subscription) } w t
      (some { h with isListed := false }) (some f.call) stage := by
  refine ⟨?_, ?_, ?_, ?_⟩
  · intro call hc
    cases hc
    refine .sharing _ f hg hsub rfl (Client.sessions_withShared hx) ha ?_
    simp
  · simp
  · intro h' he sub
    cases he
    constructor
    · intro hm
      obtain ⟨hm, hne⟩ := List.mem_filter.1 hm
      have := ((hin sub).1 hm).2
      simp [this] at hne
    · simp
  · simp

theorem settles_ends (hx : c.sessions[h.id]? = some x) (hin : h.IsIn c)
    (hclosed : s.isOpen = false) (hb : h.isListed = false) :
    Settles (c.withShared h.id ⟨s, [], 0⟩) w t (some h) none .ended := by
  refine ⟨?_, ?_, ?_, ?_⟩
  · simp
  · simp
  · intro h' he
    cases he
    exact hin
  · intro h' x' he _ hx'
    cases he
    rw [Client.sessions_withShared hx] at hx'
    cases hx'
    exact ⟨hclosed, hb⟩

/-- What a step makes of a client, with what the task owns in it before and after. -/
theorem Advances.follows (h : Advances c w t own c' call? stage) (hk : c.HasKeys)
    (hown : ∀ h, own = some h → (∃ x, c.sessions[h.id]? = some x) ∧ h.IsIn c)
    (hids : ∀ sub id, (sub, id) ∈ c.subscriptions → id < c.sessions.length) :
    ∃ new? own', c.Follows c' (own.map (·.id)) new? ∧ Settles c' w t own' call? stage ∧
      (∀ h, own = some h → new? = none ∧
        ∃ listed, own' = some { h with isListed := listed }) ∧
      (own = none → own' = new?.map fun e => ⟨e.2, e.1, true⟩) := by
  -- A task keeps the session that it has, listed as it is now.
  have hsame (h : Holding) (listed : Bool) : ∀ h', some h = some h' →
      (none : Option (String × SessionId)) = none ∧
        ∃ l, some { h with isListed := listed } = some { h' with isListed := l } := by
    intro h' he
    cases he
    exact ⟨rfl, listed, rfl⟩
  cases h with
  | alone call =>
    exact ⟨none, none, Client.follows_refl hk _, settles_alone call, by simp, by simp⟩
  | fails => exact ⟨none, none, Client.follows_refl hk _, settles_fails, by simp, by simp⟩
  | enters sub s hs =>
    exact ⟨_, _, Client.follows_enters hk hs, settles_enters hk hs hids, by simp, by simp⟩
  | stays h f stage hg hsub hl =>
    obtain ⟨⟨x, hx⟩, hin⟩ := hown h rfl
    exact ⟨none, some h, Client.follows_withShared hk hx, settles_stays hk hx hin hg hsub hl,
      hsame h h.isListed, by simp⟩
  | unlists h f stage hg hsub hb ha =>
    obtain ⟨⟨x, hx⟩, hin⟩ := hown h rfl
    have hm := (hin _).2 ⟨hb, rfl⟩
    exact ⟨none, some { h with isListed := false }, Client.follows_unlisted hk hx hm,
      settles_unlists hx hin hg hsub ha, hsame h false, by simp⟩
  | ends h s hclosed hb =>
    obtain ⟨⟨x, hx⟩, hin⟩ := hown h rfl
    exact ⟨none, some h, Client.follows_withShared hk hx, settles_ends hx hin hclosed hb,
      hsame h h.isListed, by simp⟩

end Steps

namespace Ledger

/-- The course of a ticket's task. -/
def course (l : Ledger) (k : Ticket) : Turn :=
  match l.task? k with
  | some t =>
    match l.gateway.client? t.server with
    | some c => SpaceGateway.course l.gateway.codec c.peer t (l.inputs k)
    | none => ⟨.queued, [], []⟩
  | none => ⟨.queued, [], []⟩

/-- Whether a task has in the client of its server what was entered for it. -/
def Owns (l : Ledger) (k : Ticket) (t : Task) (c : Client) : Option Holding → Prop
  | none => ∀ e, (k, e) ∉ l.entered
  | some h => (k, t.server, h.subscription, h.id) ∈ l.entered ∧ h.IsIn c

structure Owned (l : Ledger) : Prop where
  known : ∀ k t, l.task? k = some t → ∃ c, l.gateway.client? t.server = some c
  running : ∀ w k t call c, l.hands w = some k → l.task? k = some t →
    l.gateway.pool.workers[w]? = some (.busy t call) → l.gateway.client? t.server = some c →
    ∃ own, Shows c w t call (l.course k).stage own ∧ l.Owns k t c own
  ended : ∀ k ∈ l.released, (l.course k).stage = .ended
  entered : ∀ k S sub id, (k, S, sub, id) ∈ l.entered → k ∈ l.taken ∧
    ∃ t c x, l.task? k = some t ∧ t.server = S ∧ l.gateway.client? S = some c ∧
      c.sessions[id]? = some x ∧ (k ∈ l.released → x.session.isOpen = false)
  one : ∀ k e e', (k, e) ∈ l.entered → (k, e') ∈ l.entered → e = e'
  unique : ∀ k k' S sub sub' id, (k, S, sub, id) ∈ l.entered → (k', S, sub', id) ∈ l.entered → k = k'
  creator : ∀ S c id x, l.gateway.client? S = some c → c.sessions[id]? = some x →
    ∃ k sub, (k, S, sub, id) ∈ l.entered
  listed : ∀ S c sub id, l.gateway.client? S = some c → (sub, id) ∈ c.subscriptions →
    ∃ k, (k, S, sub, id) ∈ l.entered ∧ k ∉ l.released
  keys : ∀ S c, l.gateway.client? S = some c → c.HasKeys

section Advance
variable {l : Ledger} {w : WorkerId} {k : Ticket} {t : Task} {taking : Bool} {call? : Option Call}
variable {c c' : Client} {own : Option Holding}

theorem course_eq (ht : l.task? k = some t) (hc : l.gateway.client? t.server = some c) :
    l.course k = SpaceGateway.course l.gateway.codec c.peer t (l.inputs k) := by
  simp [course, ht, hc]

theorem Owned.ids (h : l.Owned) {S : ServerId} (hc : l.gateway.client? S = some c) {sub : String}
    {id : SessionId} (hm : (sub, id) ∈ c.subscriptions) : id < c.sessions.length := by
  obtain ⟨k, hk, -⟩ := h.listed S c sub id hc hm
  obtain ⟨-, t, c₁, x, -, -, hc₁, hx, -⟩ := h.entered k S sub id hk
  rw [hc] at hc₁
  cases hc₁
  exact (List.getElem?_eq_some_iff.1 hx).1

/-- What a task owns before a step of a worker for it. -/
theorem Owned.shows (h : l.Owned) (hT : l.Tidy) (hf : l.Faces w k t taking) :
    ∃ c own, l.gateway.client? t.server = some c ∧ l.Owns k t c own ∧
      (taking = true → own = none ∧ (l.course k).stage = .queued) ∧
      ∀ call, l.gateway.pool.workers[w]? = some (.busy t call) → taking = false →
        Shows c w t call (l.course k).stage own := by
  obtain ⟨c, hc⟩ := h.known k t hf.task
  cases hf with
  | taking rest q hh hw hl hr hq ht =>
    have hk := hT.not_taken hr
    refine ⟨c, none, hc, ?_, ?_, ?_⟩
    · rintro ⟨S, sub, id⟩ he
      exact hk (h.entered k S sub id he).1
    · intro _
      rw [course_eq ht hc, hT.idle k hk]
      exact ⟨rfl, rfl⟩
    · simp
  | running call hh hw ht =>
    obtain ⟨own, hs, ho⟩ := h.running w k t call c hh ht hw hc
    refine ⟨c, own, hc, ho, by simp, ?_⟩
    intro call' hw' _
    rw [hw] at hw'
    cases hw'
    exact hs

theorem Owned.holding (h : l.Owned) (hc : l.gateway.client? t.server = some c)
    (ho : l.Owns k t c own) :
    ∀ hd, own = some hd → (∃ x, c.sessions[hd.id]? = some x) ∧ hd.IsIn c := by
  intro hd he
  subst he
  obtain ⟨-, t', c₁, x, -, -, hc₁, hx, -⟩ := h.entered k _ _ _ ho.1
  rw [hc] at hc₁
  cases hc₁
  exact ⟨⟨x, hx⟩, ho.2⟩

end Advance

/-- What a step of the worker `w` for the ticket `k` makes of a ledger, if it brings the client `c'`,
the call `call?` and the new entry `new?`. -/
structure Attended (l l' : Ledger) (w : WorkerId) (k : Ticket) (t : Task) (taking : Bool) (i : Input)
    (c' : Client) (call? : Option Call) (new? : Option (String × SessionId)) : Prop where
  orders : l'.orders = l.orders
  codec : l'.gateway.codec = l.gateway.codec
  workers : l'.gateway.pool.workers = l.gateway.pool.workers.set w (workerAfter t call?)
  client : ∀ S, l'.gateway.client? S = if S = t.server then some c' else l.gateway.client? S
  taken : l'.taken = if taking then l.taken ++ [k] else l.taken
  released : l'.released = if call?.isSome then l.released else l.released ++ [k]
  hands : l'.hands = Function.update l.hands w (if call?.isSome then some k else none)
  inputs : l'.inputs = Function.update l.inputs k (l.inputs k ++ [i])
  entered : ∀ k' e, (k', e) ∈ l'.entered ↔
    (k', e) ∈ l.entered ∨ k' = k ∧ ∃ x, new? = some x ∧ e = (t.server, x)

section Attended
variable {l l' : Ledger} {w : WorkerId} {k k' : Ticket} {t t' : Task} {taking : Bool} {i : Input}
variable {c c' : Client} {call? : Option Call} {new? : Option (String × SessionId)}
variable {own own' : Option Holding}

theorem Attended.task (a : l.Attended l' w k t taking i c' call? new?) (k' : Ticket) :
    l'.task? k' = l.task? k' := by
  simp [task?, a.orders]

theorem Attended.client_self (a : l.Attended l' w k t taking i c' call? new?) :
    l'.gateway.client? t.server = some c' := by
  rw [a.client, if_pos rfl]

theorem Attended.course_self (a : l.Attended l' w k t taking i c' call? new?)
    (ht : l.task? k = some t) (hc : l.gateway.client? t.server = some c) (hp : c'.peer = c.peer) :
    l'.course k =
      (l.course k).followedBy ((l.course k).stage.next l.gateway.codec c.peer t i) := by
  rw [course_eq ht hc, course_eq ((a.task k).trans ht) a.client_self, a.codec, a.inputs, hp,
    Function.update_self, course_snoc]

theorem Attended.course_other (a : l.Attended l' w k t taking i c' call? new?) (hne : k' ≠ k)
    (hc : l.gateway.client? t.server = some c) (hp : c'.peer = c.peer) :
    l'.course k' = l.course k' := by
  unfold course
  rw [a.task, a.codec, a.inputs, Function.update_of_ne hne]
  cases l.task? k' with
  | none => rfl
  | some t' =>
    dsimp only
    rw [a.client]
    by_cases hs : t'.server = t.server
    · rw [if_pos hs, hs, hc]
      dsimp only
      rw [hp]
    · rw [if_neg hs]

theorem Attended.mem_released (a : l.Attended l' w k t taking i c' call? new?) :
    k' ∈ l'.released ↔ k' ∈ l.released ∨ k' = k ∧ call? = none := by
  rw [a.released]
  cases call? <;> simp

theorem Attended.mem_taken (a : l.Attended l' w k t taking i c' call? new?) (h : k' ∈ l.taken) :
    k' ∈ l'.taken := by
  rw [a.taken]
  cases taking <;> simp [h]

/-- All that is known of a step for a ticket. -/
structure Served (l l' : Ledger) (w : WorkerId) (k : Ticket) (t : Task) (taking : Bool) (i : Input)
    (c c' : Client) (call? : Option Call) (new? : Option (String × SessionId))
    (own own' : Option Holding) : Prop where
  before : l.Owned
  tidy : l.Tidy
  faces : l.Faces w k t taking
  client : l.gateway.client? t.server = some c
  owns : l.Owns k t c own
  attended : l.Attended l' w k t taking i c' call? new?
  follows : c.Follows c' (own.map (·.id)) new?
  settles : Settles c' w t own' call? ((l.course k).stage.next l.gateway.codec c.peer t i).stage
  same : ∀ h, own = some h → new? = none ∧ ∃ listed, own' = some { h with isListed := listed }
  fresh : own = none → own' = new?.map fun e => ⟨e.2, e.1, true⟩

section Served
variable (s : Served l l' w k t taking i c c' call? new? own own')
include s

theorem Served.task_self : l.task? k = some t := s.faces.task

theorem Served.course_self : l'.course k =
    (l.course k).followedBy ((l.course k).stage.next l.gateway.codec c.peer t i) :=
  s.attended.course_self s.task_self s.client s.follows.peer

theorem Served.course_other (hne : k' ≠ k) : l'.course k' = l.course k' :=
  s.attended.course_other hne s.client s.follows.peer

theorem Served.not_released : k ∉ l.released := (s.tidy.task_mem s.faces).2

/-- A task that enters a session had none before. -/
theorem Served.new_of_none {x : String × SessionId} (hn : new? = some x) : own = none := by
  cases ho : own with
  | none => rfl
  | some h =>
    rw [(s.same h ho).1] at hn
    cases hn

theorem Served.own_of_entered {S : ServerId} {sub : String} {id : SessionId}
    (h : (k, S, sub, id) ∈ l.entered) :
    ∃ hd, own = some hd ∧ hd.id = id ∧ hd.subscription = sub ∧ S = t.server := by
  have ho := s.owns
  cases own with
  | none => exact (ho _ h).elim
  | some hd =>
    have := s.before.one k _ _ h ho.1
    simp only [Prod.mk.injEq] at this
    exact ⟨hd, rfl, this.2.2.symm, this.2.1.symm, this.1⟩

/-- The session of another task is not the one of this task. -/
theorem Served.own_ne (hne : k' ≠ k) {sub : String} {id : SessionId}
    (h : (k', t.server, sub, id) ∈ l.entered) : own.map (·.id) ≠ some id := by
  intro he
  obtain ⟨hd, ho, hid⟩ := Option.map_eq_some_iff.1 he
  have hk := s.owns
  rw [ho] at hk
  subst hid
  exact hne (s.before.unique _ _ _ _ _ _ h hk.1)

theorem Served.entered_session {sub : String} {id : SessionId}
    (h : (k', t.server, sub, id) ∈ l.entered) : ∃ x, c.sessions[id]? = some x := by
  obtain ⟨-, t₁, c₁, x, -, -, hc, hx, -⟩ := s.before.entered _ _ _ _ h
  rw [s.client] at hc
  cases hc
  exact ⟨x, hx⟩

theorem Served.not_new {sub : String} {id : SessionId} (h : (k', t.server, sub, id) ∈ l.entered)
    (sub' : String) : new? ≠ some (sub', id) := by
  intro hn
  obtain ⟨x, hx⟩ := s.entered_session h
  rw [(s.follows.new _ _ hn).1] at hx
  cases hx

/-- What another task shows in the client it still shows after the step. -/
theorem Served.shows_other {w' : WorkerId} {call : Call} {stage : Stage} {o : Option Holding}
    (hne : k' ≠ k) (hserver : t'.server = t.server) (hs : Shows c w' t' call stage o)
    (ho : l.Owns k' t' c o) : Shows c' w' t' call stage o ∧ l'.Owns k' t' c' o := by
  cases hs with
  | alone hst =>
    refine ⟨.alone hst, ?_⟩
    intro e he
    rcases (s.attended.entered k' e).1 he with h | ⟨h, -⟩
    · exact ho e h
    · exact hne h
  | sharing h f hg hsub hcall hx hl hfound =>
    obtain ⟨hent, hin⟩ := ho
    rw [hserver] at hent
    have hid := s.own_ne hne hent
    refine ⟨.sharing h f hg hsub hcall (s.follows.kept _ _ hx hid) hl ?_, ?_, ?_⟩
    · intro hlist
      have hm := (hin _).2 ⟨hlist, rfl⟩
      exact (Client.find?_iff s.follows.keys).2 (s.follows.others _ _ hm hid)
    · rw [hserver]
      exact (s.attended.entered _ _).2 (.inl hent)
    · intro sub
      rw [← hin sub]
      constructor
      · intro hm
        rcases s.follows.entries _ _ hm with hm | hm
        · exact hm
        · exact (s.not_new hent _ hm).elim
      · intro hm
        exact s.follows.others _ _ hm hid

theorem Served.owns_self : l'.Owns k t c' own' := by
  cases ho : own with
  | none =>
    rw [s.fresh ho]
    cases hn : new? with
    | none =>
      intro e he
      have hk := s.owns
      rw [ho] at hk
      rcases (s.attended.entered k e).1 he with h | ⟨-, x, hx, -⟩
      · exact hk e h
      · rw [hn] at hx
        cases hx
    | some x =>
      refine ⟨(s.attended.entered _ _).2 (.inr ⟨rfl, x, hn, rfl⟩), ?_⟩
      apply s.settles.table
      rw [s.fresh ho, hn]
      rfl
  | some h =>
    obtain ⟨-, listed, he⟩ := s.same h ho
    have hk := s.owns
    rw [ho] at hk
    rw [he]
    exact ⟨(s.attended.entered _ _).2 (.inl hk.1), s.settles.table _ he⟩

/-- A task on another server owns what it owned. -/
theorem Served.owns_elsewhere {c₁ : Client} {o : Option Holding} (hne : k' ≠ k)
    (ho : l.Owns k' t' c₁ o) : l'.Owns k' t' c₁ o := by
  cases o with
  | none =>
    intro e hent
    rcases (s.attended.entered k' e).1 hent with h | ⟨h, -⟩
    · exact ho e h
    · exact hne h
  | some h => exact ⟨(s.attended.entered _ _).2 (.inl ho.1), ho.2⟩

theorem Served.running_self {call : Call} {c₁ : Client} (hh : l'.hands w = some k')
    (ht : l.task? k' = some t') (hw : l'.gateway.pool.workers[w]? = some (.busy t' call))
    (hc : l'.gateway.client? t'.server = some c₁) :
    ∃ o, Shows c₁ w t' call (l'.course k').stage o ∧ l'.Owns k' t' c₁ o := by
  rw [s.attended.hands, Function.update_self] at hh
  rw [s.attended.workers, List.getElem?_set_self s.faces.ready.lt] at hw
  cases call? with
  | none => cases hh
  | some call₁ =>
    cases hh
    cases s.task_self.symm.trans ht
    cases hw
    rw [s.attended.client_self] at hc
    cases hc
    rw [s.course_self]
    exact ⟨own', s.settles.going call rfl, s.owns_self⟩

theorem Served.running_other {w' : WorkerId} {call : Call} {c₁ : Client} (he : w' ≠ w)
    (hh : l'.hands w' = some k') (ht : l.task? k' = some t')
    (hw : l'.gateway.pool.workers[w']? = some (.busy t' call))
    (hc : l'.gateway.client? t'.server = some c₁) :
    ∃ o, Shows c₁ w' t' call (l'.course k').stage o ∧ l'.Owns k' t' c₁ o := by
  rw [s.attended.hands, Function.update_of_ne he] at hh
  rw [s.attended.workers, List.getElem?_set_ne (Ne.symm he)] at hw
  have hne : k' ≠ k := by
    rintro rfl
    exact s.tidy.hands_ne s.faces he hh
  rw [s.course_other hne]
  rw [s.attended.client] at hc
  by_cases hserver : t'.server = t.server
  · rw [if_pos hserver] at hc
    cases hc
    have hc' : l.gateway.client? t'.server = some c := by rw [hserver, s.client]
    obtain ⟨o, hs, ho⟩ := s.before.running w' k' t' call c hh ht hw hc'
    exact ⟨o, s.shows_other hne hserver hs ho⟩
  · rw [if_neg hserver] at hc
    obtain ⟨o, hs, ho⟩ := s.before.running w' k' t' call c₁ hh ht hw hc
    exact ⟨o, hs, s.owns_elsewhere hne ho⟩

theorem Served.running {w' : WorkerId} {call : Call} {c₁ : Client} (hh : l'.hands w' = some k')
    (ht : l'.task? k' = some t') (hw : l'.gateway.pool.workers[w']? = some (.busy t' call))
    (hc : l'.gateway.client? t'.server = some c₁) :
    ∃ o, Shows c₁ w' t' call (l'.course k').stage o ∧ l'.Owns k' t' c₁ o := by
  rw [s.attended.task] at ht
  by_cases he : w' = w
  · subst he
    exact s.running_self hh ht hw hc
  · exact s.running_other he hh ht hw hc

theorem Served.ended (hr : k' ∈ l'.released) : (l'.course k').stage = .ended := by
  rcases s.attended.mem_released.1 hr with h | ⟨rfl, h⟩
  · have hne : k' ≠ k := by
      intro he
      exact s.not_released (he ▸ h)
    rw [s.course_other hne]
    exact s.before.ended k' h
  · rw [s.course_self]
    exact s.settles.ended h

/-- What becomes of a session of the server that the step is for. -/
theorem Served.session_after {sub : String} {id : SessionId}
    (h : (k', t.server, sub, id) ∈ l.entered) : ∃ x, c'.sessions[id]? = some x ∧
      (k' ∈ l'.released → x.session.isOpen = false) := by
  obtain ⟨-, t₁, c₁, x, -, -, hc, hx, hclosed⟩ := s.before.entered _ _ _ _ h
  cases s.client.symm.trans hc
  obtain ⟨x', hx'⟩ := s.follows.stays _ _ hx
  refine ⟨x', hx', fun hr => ?_⟩
  rcases s.attended.mem_released.1 hr with hr | ⟨rfl, hr⟩
  · have hne : k' ≠ k := by
      intro he
      exact s.not_released (he ▸ hr)
    rw [s.follows.kept _ _ hx (s.own_ne hne h)] at hx'
    cases hx'
    exact hclosed hr
  · obtain ⟨hd, ho, rfl, -, -⟩ := s.own_of_entered h
    obtain ⟨-, listed, ho'⟩ := s.same hd ho
    exact (s.settles.closed _ x' ho' hr hx').1

/-- What the step enters. -/
theorem Served.new_session {sub : String} {id : SessionId} (hn : new? = some (sub, id)) :
    k ∈ l'.taken ∧ ∃ x, c'.sessions[id]? = some x ∧
      (k ∈ l'.released → x.session.isOpen = false) := by
  obtain ⟨-, -, x, hx⟩ := s.follows.new _ _ hn
  refine ⟨?_, x, hx, fun hr => ?_⟩
  · rw [s.attended.taken]
    exact (s.tidy.task_mem s.faces).1
  · rcases s.attended.mem_released.1 hr with hr | ⟨-, hr⟩
    · exact (s.not_released hr).elim
    · have ho' : own' = some ⟨id, sub, true⟩ := by
        rw [s.fresh (s.new_of_none hn), hn]
        rfl
      exact (s.settles.closed _ x ho' hr hx).1

theorem Served.entered {S : ServerId} {sub : String} {id : SessionId}
    (h : (k', S, sub, id) ∈ l'.entered) : k' ∈ l'.taken ∧
      ∃ t₁ c₁ x, l'.task? k' = some t₁ ∧ t₁.server = S ∧ l'.gateway.client? S = some c₁ ∧
        c₁.sessions[id]? = some x ∧ (k' ∈ l'.released → x.session.isOpen = false) := by
  rcases (s.attended.entered _ _).1 h with h | ⟨rfl, e, hn, he⟩
  · obtain ⟨hk, t₁, c₁, x, ht, hS, hc, hx, hclosed⟩ := s.before.entered _ _ _ _ h
    refine ⟨s.attended.mem_taken hk, t₁, ?_⟩
    by_cases hserver : S = t.server
    · rw [hserver] at h
      obtain ⟨x', hx', hclosed'⟩ := s.session_after h
      refine ⟨c', x', (s.attended.task k').trans ht, hS, ?_, hx', hclosed'⟩
      rw [hserver, s.attended.client_self]
    · refine ⟨c₁, x, (s.attended.task k').trans ht, hS, ?_, hx, fun hr => ?_⟩
      · rw [s.attended.client, if_neg hserver, hc]
      · rcases s.attended.mem_released.1 hr with hr | ⟨rfl, hr⟩
        · exact hclosed hr
        · cases s.task_self.symm.trans ht
          exact (hserver hS.symm).elim
  · cases he
    obtain ⟨hk, x, hx, hclosed⟩ := s.new_session hn
    exact ⟨hk, t, c', x, (s.attended.task k').trans s.task_self, rfl, s.attended.client_self, hx,
      hclosed⟩

theorem Served.known (ht : l'.task? k' = some t') :
    ∃ c₁, l'.gateway.client? t'.server = some c₁ := by
  rw [s.attended.task] at ht
  obtain ⟨c₁, hc⟩ := s.before.known k' t' ht
  rw [s.attended.client]
  split
  · exact ⟨c', rfl⟩
  · exact ⟨c₁, hc⟩

theorem Served.one {e e' : Listing} (h : (k', e) ∈ l'.entered) (h' : (k', e') ∈ l'.entered) :
    e = e' := by
  rcases (s.attended.entered _ _).1 h with h | ⟨rfl, x, hn, rfl⟩
  · rcases (s.attended.entered _ _).1 h' with h' | ⟨rfl, x', hn', rfl⟩
    · exact s.before.one k' e e' h h'
    · obtain ⟨hd, ho, -⟩ := s.own_of_entered h
      rw [s.new_of_none hn'] at ho
      cases ho
  · rcases (s.attended.entered _ _).1 h' with h' | ⟨-, x', hn', rfl⟩
    · obtain ⟨hd, ho, -⟩ := s.own_of_entered h'
      rw [s.new_of_none hn] at ho
      cases ho
    · rw [hn] at hn'
      cases hn'
      rfl

theorem Served.unique {k₁ k₂ : Ticket} {S : ServerId} {sub sub' : String} {id : SessionId}
    (h : (k₁, S, sub, id) ∈ l'.entered) (h' : (k₂, S, sub', id) ∈ l'.entered) : k₁ = k₂ := by
  rcases (s.attended.entered _ _).1 h with h | ⟨rfl, x, hn, he⟩
  · rcases (s.attended.entered _ _).1 h' with h' | ⟨rfl, x', hn', he'⟩
    · exact s.before.unique k₁ k₂ S sub sub' id h h'
    · simp only [Prod.mk.injEq] at he'
      obtain ⟨rfl, rfl⟩ := he'
      exact (s.not_new h _ hn').elim
  · rcases (s.attended.entered _ _).1 h' with h' | ⟨rfl, x', hn', he'⟩
    · simp only [Prod.mk.injEq] at he
      obtain ⟨rfl, rfl⟩ := he
      exact (s.not_new h' _ hn).elim
    · rfl

theorem Served.creator {S : ServerId} {c₁ : Client} {id : SessionId} {x : Shared}
    (hc : l'.gateway.client? S = some c₁) (hx : c₁.sessions[id]? = some x) :
    ∃ k sub, (k, S, sub, id) ∈ l'.entered := by
  rw [s.attended.client] at hc
  split at hc
  · rename_i hS
    cases hc
    subst hS
    rcases s.follows.fresh id x hx with ⟨x₀, hx₀⟩ | ⟨sub, hn⟩
    · obtain ⟨k', sub, h⟩ := s.before.creator _ c id x₀ s.client hx₀
      exact ⟨k', sub, (s.attended.entered _ _).2 (.inl h)⟩
    · exact ⟨k, sub, (s.attended.entered _ _).2 (.inr ⟨rfl, _, hn, rfl⟩)⟩
  · obtain ⟨k', sub, h⟩ := s.before.creator S c₁ id x hc hx
    exact ⟨k', sub, (s.attended.entered _ _).2 (.inl h)⟩

/-- A task that is listed in the table of its server is not released by its own step. -/
theorem Served.released_of_listed {sub : String} {id : SessionId}
    (hm : (sub, id) ∈ c'.subscriptions) (h : (k', t.server, sub, id) ∈ l'.entered)
    (hr : k' ∈ l'.released) : k' ∈ l.released := by
  rcases s.attended.mem_released.1 hr with hr | ⟨rfl, hr⟩
  · exact hr
  · exfalso
    have hk := s.owns_self
    cases ho : own' with
    | none =>
      rw [ho] at hk
      exact hk _ h
    | some hd =>
      rw [ho] at hk
      have he := s.one h hk.1
      simp only [Prod.mk.injEq, true_and] at he
      obtain ⟨rfl, rfl⟩ := he
      obtain ⟨-, t₁, c₁, x, -, -, hc, hx, -⟩ := s.entered h
      rw [s.attended.client_self] at hc
      cases hc
      have hno := (s.settles.closed hd x ho hr hx).2
      have hyes := ((hk.2 _).1 hm).1
      rw [hno] at hyes
      cases hyes

theorem Served.listed {S : ServerId} {c₁ : Client} {sub : String} {id : SessionId}
    (hc : l'.gateway.client? S = some c₁) (hm : (sub, id) ∈ c₁.subscriptions) :
    ∃ k, (k, S, sub, id) ∈ l'.entered ∧ k ∉ l'.released := by
  rw [s.attended.client] at hc
  split at hc
  · rename_i hS
    cases hc
    subst hS
    rcases s.follows.entries _ _ hm with hm₀ | hn
    · obtain ⟨k', h, hr⟩ := s.before.listed _ c sub id s.client hm₀
      have h' := (s.attended.entered _ _).2 (.inl h)
      exact ⟨k', h', fun hr' => hr (s.released_of_listed hm h' hr')⟩
    · have h' := (s.attended.entered _ _).2 (.inr ⟨rfl, _, hn, rfl⟩)
      exact ⟨k, h', fun hr' => s.not_released (s.released_of_listed hm h' hr')⟩
  · rename_i hS
    obtain ⟨k', h, hr⟩ := s.before.listed S c₁ sub id hc hm
    refine ⟨k', (s.attended.entered _ _).2 (.inl h), ?_⟩
    intro hr'
    rcases s.attended.mem_released.1 hr' with hr' | ⟨rfl, -⟩
    · exact hr hr'
    · obtain ⟨-, -, -, -, hserver⟩ := s.own_of_entered h
      exact hS hserver

theorem Served.keys {S : ServerId} {c₁ : Client} (hc : l'.gateway.client? S = some c₁) :
    c₁.HasKeys := by
  rw [s.attended.client] at hc
  split at hc
  · cases hc
    exact s.follows.keys
  · exact s.before.keys S c₁ hc

/-- A step for a ticket keeps every session with its one task. -/
theorem Served.owned : l'.Owned where
  known _ _ := s.known
  running _ _ _ _ _ := s.running
  ended _ := s.ended
  entered _ _ _ _ := s.entered
  one _ _ _ := s.one
  unique _ _ _ _ _ _ := s.unique
  creator _ _ _ _ := s.creator
  listed _ _ _ _ := s.listed
  keys _ _ := s.keys

end Served
end Attended
end Ledger
end SpaceGateway
