import SpaceGateway.Codec.Framed
import SpaceGateway.Proofs.Dialogue
import SpaceGateway.Proofs.Farewells
/-!
How long servers last. A server goes when it is not linked and its last task is over, whatever is added
or removed meanwhile, and then nothing is subscribed there any more.
-/
namespace SpaceGateway

/-- What is logged of a server when it has gone. -/
def Server.farewell? (s : Server) : Option Log.Entry :=
  if s.isAlive then none else some (.serverDestroyed s.info.identity)

/-- The farewells of the servers that went, in the order in which they were added. -/
def Registry.gone (r : Registry) : List Log.Entry := r.servers.filterMap Server.farewell?

/-- What was seen is the farewells of the servers that went meanwhile. -/
def Registry.Parts (r r' : Registry) (ev : List Event) : Prop :=
  r'.gone.Perm (r.gone ++ farewells ev)

section Lists
variable {α β : Type}

/-- What is put in the place of something that was left out comes to the rest. -/
theorem filterMap_set_perm {f : α → Option β} {l : List α} {i : Nat} {a : α} (h : l[i]? = some a)
    (ha : f a = none) (b : α) :
    ((l.set i b).filterMap f).Perm (l.filterMap f ++ (f b).toList) := by
  induction l generalizing i with
  | nil => cases h
  | cons x l ih =>
    cases i with
    | zero =>
      cases h
      rw [List.set_cons_zero, List.filterMap_cons_none ha]
      cases hb : f b with
      | none =>
        rw [List.filterMap_cons_none hb]
        simp
      | some y =>
        rw [List.filterMap_cons_some hb]
        exact (List.perm_append_singleton y _).symm
    | succ i =>
      rw [List.set_cons_succ]
      cases hx : f x with
      | none =>
        rw [List.filterMap_cons_none hx, List.filterMap_cons_none hx]
        exact ih h
      | some y =>
        rw [List.filterMap_cons_some hx, List.filterMap_cons_some hx]
        exact (ih h).cons y

theorem filterMap_modify {f : α → Option β} {l : List α} {i : Nat} {m : α → α}
    (h : ∀ a, l[i]? = some a → f (m a) = f a) : (l.modify i m).filterMap f = l.filterMap f := by
  induction l generalizing i with
  | nil => simp
  | cons x l ih =>
    cases i with
    | zero => simp [List.filterMap_cons, h x rfl]
    | succ i => simp [List.filterMap_cons, ih fun a ha => h a ha]

end Lists

section Registries
variable {r : Registry} {S : ServerId} {sv : Server} {c : Client}

theorem events_abandon (h : c.IsQuiet) : c.abandon.2 = [] := by
  refine List.flatMap_eq_nil_iff.2 ?_
  intro x hx
  simp [Session.abandon, h x (List.mem_mergeSort.1 hx)]

/-- What is seen when one less holds a server in which nothing is left. -/
theorem letGo_quiet (ha : sv.isAlive = true)
    (hq : sv.holders = 1 → sv.client.IsQuiet ∧ sv.client.subscriptions = []) :
    sv.letGo.2 = if sv.holders = 1 then [.log (.serverDestroyed sv.info.identity)] else [] := by
  have h0 : sv.holders ≠ 0 := by simpa [Server.isAlive] using ha
  unfold Server.letGo
  rw [if_neg h0]
  split
  · rename_i h1
    obtain ⟨hquiet, hnone⟩ := hq h1
    simp [Server.destroy, hnone, events_abandon hquiet]
  · rfl

theorem gone_withClient (r : Registry) (S : ServerId) (c : Client) :
    (r.withClient S c).gone = r.gone :=
  filterMap_modify fun _ _ => rfl

theorem gone_hold (hs : r.servers[S]? = some sv) (ha : sv.isAlive = true) :
    (r.hold S).gone = r.gone := by
  refine filterMap_modify fun s h => ?_
  obtain rfl := Option.some.inj (hs.symm.trans h)
  rw [Server.farewell?, Server.farewell?, if_pos ha]
  rfl

/-- A server that is let go says farewell if it goes. -/
theorem farewells_letGo (ha : sv.isAlive = true)
    (hq : sv.holders = 1 → sv.client.IsQuiet ∧ sv.client.subscriptions = []) :
    farewells sv.letGo.2 = sv.letGo.1.farewell?.toList := by
  have h0 : sv.holders ≠ 0 := by simpa [Server.isAlive] using ha
  have hinfo : sv.letGo.1.info = sv.info := congrArg Prod.fst (place_letGo (s := sv))
  rw [letGo_quiet ha hq, Server.farewell?, Server.isAlive, letGo_holders, hinfo]
  by_cases h1 : sv.holders = 1
  · simp [h1, Log.Entry.isFarewell]
  · have : sv.holders - 1 ≠ 0 := by omega
    simp [h1, this]

theorem parts_set (hs : r.servers[S]? = some sv) (ha : sv.isAlive = true)
    (hq : sv.holders = 1 → sv.client.IsQuiet ∧ sv.client.subscriptions = [])
    {linked : List ServerId} :
    r.Parts { r with linked, servers := r.servers.set S sv.letGo.1 } sv.letGo.2 := by
  rw [Registry.Parts, farewells_letGo ha hq]
  exact filterMap_set_perm hs (by simp [Server.farewell?, ha]) _

theorem parts_add (r : Registry) (info : ServerInfo) :
    r.Parts (r.add info).2.1 (r.add info).2.2 := by
  unfold Registry.add Registry.Parts
  cases r.find? info.identity with
  | some S => simp
  | none => simp [Registry.gone, Server.create, Server.farewell?, Server.isAlive, Log.Entry.isFarewell]

end Registries

/-- How servers age: none is linked again, and none that went comes back. -/
structure Registry.Ages (r r' : Registry) : Prop where
  linked : ∀ S ∈ r'.linked, S < r.servers.length → S ∈ r.linked
  servers : ∀ (S : ServerId) (sv : Server), r.servers[S]? = some sv →
    ∃ sv' : Server, r'.servers[S]? = some sv' ∧ (sv.isAlive = false → sv'.isAlive = false)

section Ages
variable {r r' r'' : Registry} {S : ServerId} {sv : Server}

theorem Registry.Ages.refl (r : Registry) : r.Ages r :=
  ⟨fun _ hS _ => hS, fun _ sv hs => ⟨sv, hs, id⟩⟩

theorem Registry.Ages.lt (h : r.Ages r') (hS : S < r.servers.length) : S < r'.servers.length := by
  obtain ⟨sv', hs', -⟩ := h.servers S _ (List.getElem?_eq_getElem hS)
  exact (List.getElem?_eq_some_iff.1 hs').1

theorem Registry.Ages.trans (h : r.Ages r') (h' : r'.Ages r'') : r.Ages r'' := by
  refine ⟨?_, ?_⟩
  · intro S hS hlt
    exact h.linked S (h'.linked S hS (h.lt hlt)) hlt
  · intro S sv hs
    obtain ⟨sv₁, hs₁, hg₁⟩ := h.servers S sv hs
    obtain ⟨sv₂, hs₂, hg₂⟩ := h'.servers S sv₁ hs₁
    exact ⟨sv₂, hs₂, fun hg => hg₂ (hg₁ hg)⟩

/-- Servers age when one of them is put in another state, if it does not come back. -/
theorem ages_modify {f : Server → Server}
    (hf : ∀ sv, r.servers[S]? = some sv → sv.isAlive = false → (f sv).isAlive = false) :
    r.Ages (r.modify S f) := by
  refine ⟨fun _ hS _ => hS, ?_⟩
  intro S' sv hs
  simp only [Registry.modify, List.getElem?_modify, hs]
  by_cases he : S = S'
  · subst he
    exact ⟨f sv, by simp, hf sv hs⟩
  · exact ⟨sv, by simp [he], id⟩

theorem ages_letGo (r : Registry) (S : ServerId) : r.Ages (r.letGo S).1 := by
  cases hs : r.servers[S]? with
  | none =>
    have he : r.letGo S = (r, []) := by simp [Registry.letGo, hs]
    rw [he]
    exact .refl r
  | some sv =>
    rw [registry_letGo hs]
    refine ⟨fun _ hS _ => hS, ?_⟩
    intro S' sv' hs'
    obtain ⟨hlt, -⟩ := List.getElem?_eq_some_iff.1 hs
    by_cases he : S = S'
    · subst he
      obtain rfl := Option.some.inj (hs.symm.trans hs')
      refine ⟨sv.letGo.1, List.getElem?_set_self hlt, ?_⟩
      intro hg
      have h0 : sv.holders = 0 := by simpa [Server.isAlive] using hg
      simp [Server.isAlive, letGo_holders, h0]
    · exact ⟨sv', by simpa [List.getElem?_set_ne he] using hs', id⟩

theorem ages_add (r : Registry) (info : ServerInfo) : r.Ages (r.add info).2.1 := by
  unfold Registry.add
  cases r.find? info.identity with
  | some S => exact .refl r
  | none =>
    refine ⟨?_, ?_⟩
    · intro S hS hlt
      rcases List.mem_append.1 hS with hS | hS
      · exact hS
      · rw [List.mem_singleton.1 hS] at hlt
        exact (Nat.lt_irrefl _ hlt).elim
    · intro S sv hs
      obtain ⟨hlt, -⟩ := List.getElem?_eq_some_iff.1 hs
      exact ⟨sv, by rw [List.getElem?_append_left hlt, hs], id⟩

theorem ages_remove (r : Registry) (identity : String) : r.Ages (r.remove identity).2.1 := by
  unfold Registry.remove
  cases r.find? identity with
  | none => exact .refl r
  | some S =>
    have h₁ : r.Ages { r with linked := r.linked.erase S } :=
      ⟨fun _ hS _ => List.mem_of_mem_erase hS, fun _ sv hs => ⟨sv, hs, id⟩⟩
    exact h₁.trans (ages_letGo _ S)

theorem ages_attended {t : Task} {c : Client} (call? : Option Call) :
    r.Ages (r.attended t c call?).1 := by
  have h : r.Ages (r.withClient t.server c) := ages_modify fun _ _ hg => hg
  cases call? with
  | some call => exact h
  | none => exact h.trans (ages_letGo _ t.server)

end Ages

namespace Ledger
variable {l l' : Ledger} {mv : Move} {w : WorkerId} {k : Ticket} {t : Task} {S : ServerId}
variable {codec : Codec} {config : Config} {P : Ledger → Move → Prop}

section Steps
variable {taking : Bool} {c : Client} {own : Option Holding} {i : Input} {s : Step}
variable {next : Gateway × List Event}

theorem Sound.parts_remove (h : l.Sound) (identity : String) :
    l.gateway.registry.Parts (l.gateway.registry.remove identity).2.1
      (l.gateway.registry.remove identity).2.2 := by
  rcases remove_cases h.housed identity with ⟨-, hr⟩ | ⟨S, sv, -, hs, hh, hr⟩
  · simp [hr, Registry.Parts]
  · rw [hr, Registry.Parts]
    have halive : sv.isAlive = true := by simp [Server.isAlive, hh]
    refine parts_set hs halive ?_
    intro h1
    exact h.owned.quiet_of_unheld h.tidy hs (by omega)

theorem Sound.parts_discover (h : l.Sound) (news : Discovery) :
    l.gateway.registry.Parts (l.gateway.discover news).1.registry
      (l.gateway.discover news).2 := by
  cases news with
  | added info => exact parts_add _ info
  | removed identity => exact h.parts_remove identity
  | invalid identity => exact h.parts_remove identity

theorem Sound.alive_of_linked (h : l.Sound) (hS : S ∈ l.gateway.registry.linked) {sv : Server}
    (hs : l.gateway.registry.servers[S]? = some sv) : sv.isAlive = true := by
  have hpos := List.count_pos_iff.2 hS
  have hh := h.housed.holders S sv hs
  have : sv.holders ≠ 0 := by omega
  simpa [Server.isAlive] using this

theorem Sound.parts_request (h : l.Sound) (caller : CallerId) (r : CallerRequest) :
    l.gateway.registry.Parts (l.gateway.request caller r).2.1.registry
      (l.gateway.request caller r).2.2 := by
  have hgone : (l.gateway.request caller r).2.1.registry.gone = l.gateway.registry.gone := by
    rcases request_cases l.gateway caller r with ⟨S, hf, -, -, hr, -⟩ | ⟨-, hg, -⟩
    · have hmem : S ∈ l.gateway.registry.linked := List.mem_of_find?_eq_some hf
      have hs := List.getElem?_eq_getElem (h.housed.known S hmem)
      rw [hr, gone_hold hs (h.alive_of_linked hmem hs)]
    · rw [hg]
  rw [Registry.Parts, farewells_request, hgone, List.append_nil]

/-- A step for a ticket lets the server go if the task is over then. -/
theorem Sound.parts_attend (h : l.Sound) (hf : l.Faces w k t taking)
    (hc : l.gateway.client? t.server = some c) (ho : l.Owns k t c own)
    (hp : l.gateway.Proceeds w t taking c own
      ((l.course k).stage.next l.gateway.codec c.peer t i) s next) :
    l.gateway.registry.Parts next.1.registry next.2 := by
  have ha := hp.attended
  have hadv := hp.moves.advances
  rw [Registry.Parts, hp.farewells, ha.registry]
  cases hcall : t.call? s with
  | some call => simp [Registry.attended, gone_withClient]
  | none =>
    rw [hcall] at ha hadv
    obtain ⟨sv, hs, -⟩ := Option.map_eq_some_iff.1 hc
    have hs' : (l.gateway.registry.withClient t.server s.client).servers[t.server]? =
        some { sv with client := s.client } := by
      simp [servers_withClient, hs]
    have hheld : sv.holders ≠ 0 := by
      have hh := h.housed.holders _ _ hs
      have hold := holding_attended hf none t.server
      simp only [true_and, if_true] at hold
      omega
    have halive : ({ sv with client := s.client } : Server).isAlive = true := by
      simpa [Server.isAlive] using hheld
    simp only [Registry.attended, registry_letGo hs']
    rw [← gone_withClient l.gateway.registry t.server s.client]
    refine parts_set hs' halive ?_
    intro h1
    exact h.owned.attend_quiet h.tidy h.housed hf hc ho ha hadv rfl hs h1

end Steps

/-- All that was seen. -/
def events (l : Ledger) : List Event := l.history.map (·.2)

theorem events_note {k? : Option Ticket} {next : Gateway × List Event} :
    (l.note k? next).events = l.events ++ next.2 := by
  simp [events, note, Function.comp_def]

/-- In every move those servers say farewell that go. -/
theorem Sound.parts (h : l.Sound) (ha : l.Allows mv) :
    ∃ ev, (l.move mv).events = l.events ++ ev ∧
      l.gateway.registry.Parts (l.move mv).gateway.registry ev := by
  have hsame {ev : List Event} (he : farewells ev = []) :
      l.gateway.registry.Parts l.gateway.registry ev := by
    simp [Registry.Parts, he]
  have hworked {w : WorkerId} (hmv : mv.worker? = some w) :
      ∃ ev, (l.move mv).events = l.events ++ ev ∧
        l.gateway.registry.Parts (l.move mv).gateway.registry ev := by
    cases hk : l.ticket? w with
    | some k =>
      obtain ⟨t, i, taking, c, own, s, next, -, hf, hc, ho, he, hp⟩ := h.proceeds_for hk hmv ha
      rw [he]
      exact ⟨next.2, events_note, h.parts_attend hf hc ho hp⟩
    | none =>
      obtain ⟨p, ev, he, -, rfl | rfl⟩ := h.idles hk hmv
      · rw [he]
        exact ⟨[], events_note, hsame rfl⟩
      · rw [he]
        exact ⟨_, events_note, hsame rfl⟩
  cases mv with
  | work w => exact hworked rfl
  | answer w a => exact hworked rfl
  | discover news => exact ⟨_, events_note, h.parts_discover news⟩
  | request caller r => exact ⟨_, events_note, h.parts_request caller r⟩
  | depart caller => exact ⟨[], (List.append_nil _).symm, hsame rfl⟩
  | shutDown => exact ⟨[], (List.append_nil _).symm, hsame rfl⟩
  | returnFrom i =>
    have he : (l.gateway.returnFrom i).1.registry = l.gateway.registry ∧
        farewells (l.gateway.returnFrom i).2 = [] := by
      unfold Gateway.returnFrom
      split
      · exact ⟨rfl, rfl⟩
      · exact ⟨rfl, rfl⟩
    refine ⟨_, events_note, ?_⟩
    change Registry.Parts _ (l.gateway.returnFrom i).1.registry _
    rw [he.1]
    exact hsame he.2

/-- Along a run each server that goes says farewell once. -/
theorem farewells_of_run (run : Run P (start codec config) l) :
    (farewells l.events).Perm l.gateway.registry.gone := by
  induction run with
  | refl => exact List.Perm.nil
  | snoc run allowed _ ih =>
    obtain ⟨ev, he, hp⟩ := (sound_start.run run).parts allowed
    rw [he, farewells_append]
    exact (ih.append_right _).trans hp.symm

theorem Sound.ages (h : l.Sound) (ha : l.Allows mv) :
    l.gateway.registry.Ages (l.move mv).gateway.registry := by
  have hworked {w : WorkerId} (hmv : mv.worker? = some w) :
      l.gateway.registry.Ages (l.move mv).gateway.registry := by
    rcases h.worked_cases hmv ha with ⟨k, t, hs⟩ | ⟨p, ev, he, -⟩
    · obtain ⟨w', i, taking, c, own, next, -, -, -, -, -, he, c', call?, hatt, -⟩ := hs
      rw [he]
      change Registry.Ages _ next.1.registry
      rw [hatt.registry]
      exact ages_attended call?
    · rw [he]
      exact .refl _
  cases mv with
  | work w => exact hworked rfl
  | answer w a => exact hworked rfl
  | discover news =>
    cases news with
    | added info => exact ages_add _ info
    | removed identity => exact ages_remove _ identity
    | invalid identity => exact ages_remove _ identity
  | request caller r =>
    change Registry.Ages _ (l.gateway.request caller r).2.1.registry
    rcases request_cases l.gateway caller r with ⟨S, hf, -, -, hr, -⟩ | ⟨-, hg, -⟩
    · rw [hr]
      refine ages_modify fun sv hs hg => ?_
      rw [h.alive_of_linked (List.mem_of_find?_eq_some hf) hs] at hg
      cases hg
    · rw [hg]
      exact .refl _
  | depart caller => exact .refl _
  | shutDown => exact .refl _
  | returnFrom i =>
    change Registry.Ages _ (l.gateway.returnFrom i).1.registry
    unfold Gateway.returnFrom
    split
    · exact .refl _
    · exact .refl _

/-- What is so of a server and of a task later. -/
theorem Sound.later (h : l.Sound) (run : Run P l l') :
    l.gateway.registry.Ages l'.gateway.registry ∧ l.gateway.registry.Grows l'.gateway.registry ∧
      ∀ k t, l.task? k = some t → l'.task? k = some t := by
  induction run with
  | refl => exact ⟨.refl _, .refl _, fun _ _ ht => ht⟩
  | snoc run allowed _ ih =>
    have hm := h.run run
    obtain ⟨hages, hgrows, htask⟩ := ih
    refine ⟨hages.trans (hm.ages allowed), hgrows.trans (hm.grows allowed).2, ?_⟩
    intro k t ht
    exact hm.task?_stays allowed (htask k t ht)

/-- A task that is not over holds its server. -/
theorem Sound.holding_pos (h : l.Sound) (ht : l.task? k = some t) (hr : k ∉ l.released) :
    0 < l.gateway.pool.holding t.server := by
  have hk : k ∈ l.taken ++ l.waiting := by
    rw [h.tidy.accepted, mem_accepted, ht]
    rfl
  rcases List.mem_append.1 hk with htaken | hwaiting
  · obtain ⟨w, hw⟩ := (h.tidy.held k).2 ⟨htaken, hr⟩
    obtain ⟨t', call, hb, ht'⟩ := h.tidy.hand w k hw
    obtain rfl := Option.some.inj (ht.symm.trans ht')
    have hpos : 0 < l.gateway.pool.workers.countP (Worker.isFor t.server) :=
      List.countP_pos_iff.2 ⟨_, List.mem_of_getElem? hb, by simp [Worker.isFor]⟩
    unfold Pool.holding
    omega
  · have hm : some t ∈ l.gateway.pool.queue.map some := by
      rw [h.tidy.queue]
      exact List.mem_map.2 ⟨k, hwaiting, ht⟩
    obtain ⟨t', hq, he⟩ := List.mem_map.1 hm
    obtain rfl := Option.some.inj he
    have hpos : 0 < l.gateway.pool.queue.countP (·.server == t'.server) :=
      List.countP_pos_iff.2 ⟨_, hq, by simp⟩
    unfold Pool.holding
    omega

/-- Whether a task asks for a connection only to an address. -/
def ConnectsOnlyTo (l : Ledger) (k : Ticket) (a : Address) : Prop :=
  ∀ x ∈ l.trafficOf k, ∀ b, (∃ c, x = .opened c b) ∨ x = .refused b → b = a

/-- How long the servers of a gateway last, as of now. -/
structure Lifetimes (l : Ledger) : Prop where
  /-- A server is held by the registry while it is linked, and by each task that is queued or runs. -/
  holders : ∀ (S : ServerId) (sv : Server), l.gateway.registry.servers[S]? = some sv →
    sv.holders = (if S ∈ l.gateway.registry.linked then 1 else 0) + l.gateway.pool.holding S
  /-- It has gone if it is not linked and has no task, and only then. -/
  gone : ∀ (S : ServerId) (sv : Server), l.gateway.registry.servers[S]? = some sv →
    (sv.isAlive = false ↔ S ∉ l.gateway.registry.linked ∧ l.gateway.pool.holding S = 0)
  /-- Nothing is subscribed at a server that has no task. -/
  quiet : ∀ (S : ServerId) (sv : Server), l.gateway.registry.servers[S]? = some sv →
    l.gateway.pool.holding S = 0 → sv.client.subscriptions = []
  /-- Those that have gone have said farewell, each of them once. -/
  farewells : (farewells l.events).Perm l.gateway.registry.gone
  /-- None of them went with live subscriptions. -/
  unwarned : ∀ identity live span, Event.log (.serverLive identity live) span ∉ l.events
  /-- Those that go in a move say farewell in this move. -/
  parts : ∀ mv, l.Allows mv → ∃ ev, (l.move mv).events = l.events ++ ev ∧
    l.gateway.registry.Parts (l.move mv).gateway.registry ev
  /-- A server that is unlinked has as many holders left as it has tasks. -/
  removed : ∀ identity (S : ServerId) (sv : Server),
    l.gateway.registry.find? identity = some S → l.gateway.registry.servers[S]? = some sv →
      (l.gateway.registry.remove identity).2.2 =
        .log (.serverRemoved identity (l.gateway.pool.holding S)) ::
          if l.gateway.pool.holding S = 0 then [.log (.serverDestroyed sv.info.identity)] else []
  /-- A server stays what it is, is not linked again and does not come back. -/
  stays : ∀ (S : ServerId) (sv : Server) (l' : Ledger), l.gateway.registry.servers[S]? = some sv →
    Run (fun _ _ => True) l l' → ∃ sv' : Server, l'.gateway.registry.servers[S]? = some sv' ∧
      sv'.info = sv.info ∧ sv'.client.peer = sv.client.peer ∧
      (S ∉ l.gateway.registry.linked → S ∉ l'.gateway.registry.linked) ∧
      (sv.isAlive = false → sv'.isAlive = false)
  /-- A task stays with the server that it was accepted for, and keeps it until it is over. -/
  keeps : ∀ k t l', l.task? k = some t → Run (fun _ _ => True) l l' → l'.task? k = some t ∧
    ∃ sv : Server, l'.gateway.registry.servers[t.server]? = some sv ∧
      l'.ConnectsOnlyTo k sv.info.address ∧ (k ∉ l'.released → sv.isAlive = true)
  /-- It is carried out by the client of this server, and no other server changes. -/
  own : ∀ mv w k t (sv : Server), l.Allows mv → mv.worker? = some w → l.ticket? w = some k →
    l.task? k = some t → l.gateway.registry.servers[t.server]? = some sv →
      (∃ s, Call.Makes l.gateway.codec.parser sv.client w s ∧
        (l.move mv).gateway.registry = (l.gateway.registry.attended t s.client (t.call? s)).1) ∧
      ∀ S, S ≠ t.server →
        (l.move mv).gateway.registry.servers[S]? = l.gateway.registry.servers[S]?

section Lifetimes

theorem Sound.holders_eq (h : l.Sound) {sv : Server}
    (hs : l.gateway.registry.servers[S]? = some sv) :
    sv.holders = (if S ∈ l.gateway.registry.linked then 1 else 0) + l.gateway.pool.holding S := by
  rw [h.housed.holders S sv hs]
  split
  · rename_i hm
    rw [List.count_eq_one_of_mem h.housed.linked hm]
  · rename_i hm
    rw [List.count_eq_zero.2 hm]

theorem Sound.gone_iff (h : l.Sound) {sv : Server}
    (hs : l.gateway.registry.servers[S]? = some sv) :
    sv.isAlive = false ↔ S ∉ l.gateway.registry.linked ∧ l.gateway.pool.holding S = 0 := by
  have hh := h.holders_eq hs
  simp only [Server.isAlive, bne_eq_false_iff_eq, hh]
  by_cases hm : S ∈ l.gateway.registry.linked
  · simp [hm]
  · simp [hm]

theorem unwarned_of_run (run : Run P (start codec config) l) (identity : String) (live : Nat)
    (span : Option Span) : Event.log (.serverLive identity live) span ∉ l.events := by
  intro hm
  have hf : .serverLive identity live ∈ SpaceGateway.farewells l.events :=
    List.mem_filterMap.2 ⟨_, hm, rfl⟩
  rw [(farewells_of_run run).mem_iff] at hf
  obtain ⟨sv, -, he⟩ := List.mem_filterMap.1 hf
  unfold Server.farewell? at he
  split at he <;> cases he

theorem Sound.removed (h : l.Sound) {identity : String} {sv : Server}
    (hf : l.gateway.registry.find? identity = some S)
    (hs : l.gateway.registry.servers[S]? = some sv) :
    (l.gateway.registry.remove identity).2.2 =
      .log (.serverRemoved identity (l.gateway.pool.holding S)) ::
        if l.gateway.pool.holding S = 0 then [.log (.serverDestroyed sv.info.identity)]
        else [] := by
  rcases remove_cases h.housed identity with ⟨hno, -⟩ | ⟨S', sv', hf', hs', hh, hr⟩
  · rw [hf] at hno
    cases hno
  · obtain rfl := Option.some.inj (hf.symm.trans hf')
    obtain rfl := Option.some.inj (hs.symm.trans hs')
    rw [hr]
    have halive : sv.isAlive = true := by simp [Server.isAlive, hh]
    have hquiet : sv.holders = 1 → sv.client.IsQuiet ∧ sv.client.subscriptions = [] :=
      fun h1 => h.owned.quiet_of_unheld h.tidy hs (by omega)
    simp [letGo_quiet halive hquiet, hh]

/-- A connection is asked for at the address of the peer. -/
theorem demand?_connect {peer : Peer} {stage : Stage} {a : Address}
    (h : stage.demand? peer = some (.connect a)) : a = peer.address := by
  have hact (s : Session) (act : Act) : s.demand act ≠ .connect a := by
    cases act <;> exact nofun
  cases stage with
  | calling call =>
    cases call with
    | exchanging aim request x =>
      cases x with
      | connecting =>
        cases h
        rfl
      | acting s act => exact (hact s act (Option.some.inj h)).elim
    | _ => cases h
  | polling sub post s =>
    cases post with
    | acting act => exact (hact s act (Option.some.inj h)).elim
    | _ => cases h
  | _ => cases h

theorem Sound.connectsOnlyTo (h : l.Sound) (ht : l.task? k = some t) {c : Client}
    (hc : l.gateway.client? t.server = some c) : l.ConnectsOnlyTo k c.peer.address := by
  intro x hx b hb
  have hm : x ∈ exchanges (l.trafficOf k) := by
    refine List.mem_filter.2 ⟨hx, ?_⟩
    rcases hb with ⟨conn, rfl⟩ | rfl <;> rfl
  rw [h.exchanges_eq ht, dialogue_eq ht hc] at hm
  obtain ⟨⟨d, a⟩, hda, hr⟩ := List.mem_filterMap.1 hm
  obtain ⟨⟨stage, i⟩, -, hsaid⟩ := List.mem_filterMap.1 hda
  have hd : d = .connect b := by
    rcases hb with ⟨conn, rfl⟩ | rfl
    · cases d <;> cases a <;> simp [Demand.record?] at hr
      rw [hr.2]
    · cases d <;> cases a <;> simp [Demand.record?] at hr
      rw [hr]
  subst hd
  cases i with
  | step free => cases hsaid
  | answer a' =>
    simp only [Stage.said?, Option.bind_eq_some_iff] at hsaid
    obtain ⟨d, hd, he⟩ := hsaid
    split at he
    · cases he
      exact demand?_connect hd
    · cases he

theorem servers_attended {r : Registry} {c : Client} (call? : Option Call) (hS : S ≠ t.server) :
    (r.attended t c call?).1.servers[S]? = r.servers[S]? := by
  have hw : (r.withClient t.server c).servers[S]? = r.servers[S]? := by
    simp [servers_withClient, Ne.symm hS]
  cases call? with
  | some call => exact hw
  | none =>
    simp only [Registry.attended]
    cases hs : (r.withClient t.server c).servers[t.server]? with
    | none => simpa [Registry.letGo, hs] using hw
    | some sv =>
      rw [registry_letGo hs]
      simpa [List.getElem?_set_ne (Ne.symm hS)] using hw

/-- A step for a ticket is a step of the client of its server. -/
theorem Sound.own (h : l.Sound) (ha : l.Allows mv) (hmv : mv.worker? = some w)
    (hk : l.ticket? w = some k) (ht : l.task? k = some t) {sv : Server}
    (hs : l.gateway.registry.servers[t.server]? = some sv) :
    (∃ s, Call.Makes l.gateway.codec.parser sv.client w s ∧
      (l.move mv).gateway.registry = (l.gateway.registry.attended t s.client (t.call? s)).1) ∧
    ∀ S, S ≠ t.server →
      (l.move mv).gateway.registry.servers[S]? = l.gateway.registry.servers[S]? := by
  obtain ⟨t', i, taking, c, own, s, next, -, hf, hc, -, he, hp⟩ := h.proceeds_for hk hmv ha
  obtain rfl := Option.some.inj (ht.symm.trans hf.task)
  have hsc : sv.client = c := by simpa [Gateway.client?, hs] using hc
  have hreg : (l.move mv).gateway.registry =
      (l.gateway.registry.attended t s.client (t.call? s)).1 := by
    rw [he]
    exact hp.attended.registry
  refine ⟨⟨s, hsc ▸ hp.makes, hreg⟩, ?_⟩
  intro S hS
  rw [hreg, servers_attended _ hS]

/-- In every state that a gateway can come to, its servers last as long as they are linked or have
tasks. -/
theorem lifetimes (h : Reachable codec config l) : l.Lifetimes := by
  have hs := sound_of_reachable h
  refine ⟨fun S sv hS => hs.holders_eq hS, fun S sv hS => hs.gone_iff hS, ?_, farewells_of_run h,
    unwarned_of_run h, fun mv ha => hs.parts ha, fun identity S sv hf hS => hs.removed hf hS,
    ?_, ?_, fun mv w k t sv ha hmv hk ht hS => hs.own ha hmv hk ht hS⟩
  · intro S sv hS h0
    exact (hs.owned.quiet_of_unheld hs.tidy hS h0).2
  · intro S sv l' hS run
    obtain ⟨hages, hgrows, -⟩ := hs.later run
    obtain ⟨sv', hS', hgone⟩ := hages.servers S sv hS
    have hplace : l'.gateway.registry.places[S]? = some sv.place :=
      hgrows.place (by simp [Registry.places, hS])
    have he : sv'.place = sv.place := by simpa [Registry.places, hS'] using hplace
    refine ⟨sv', hS', congrArg Prod.fst he, congrArg Prod.snd he, ?_, hgone⟩
    intro hno hm
    exact hno (hages.linked S hm (List.getElem?_eq_some_iff.1 hS).1)
  · intro k t l' ht run
    have hs' := hs.run run
    have ht' := (hs.later run).2.2 k t ht
    obtain ⟨c, hc⟩ := hs'.owned.known k t ht'
    obtain ⟨sv, hS, rfl⟩ := Option.map_eq_some_iff.1 hc
    have hpeer := ((placed_of_run (h.trans run)).peer_of_server hS).2
    refine ⟨ht', sv, hS, ?_, ?_⟩
    · have hto := hs'.connectsOnlyTo ht' hc
      rw [hpeer] at hto
      exact hto
    · intro hr
      cases halive : sv.isAlive with
      | true => rfl
      | false =>
        have hpos := hs'.holding_pos ht' hr
        have h0 := ((hs'.gone_iff hS).1 halive).2
        omega

/-- A server is removed while it has a task, and another of its identity is added. Then the task goes
on. -/
def replacedServer : List Move :=
  [.discover (.added ⟨"space", "", ⟨"host", 1⟩⟩),
    .request "caller" ⟨"space", "node", "mark", 1, .join⟩, .work 0,
    .discover (.removed "SPACE"), .discover (.added ⟨"space", "", ⟨"other", 2⟩⟩),
    .answer 0 (.connected 7)]

theorem lifetimes_of_replaced_server :
    ((start Framed.codec {}).moveAll replacedServer).Lifetimes := by
  refine @lifetimes _ Framed.codec {} (run_moveAll .refl ?_)
  refine ⟨⟨trivial, trivial⟩, ⟨trivial, trivial⟩, ⟨rfl, trivial⟩, ⟨trivial, trivial⟩,
    ⟨trivial, trivial⟩, ⟨⟨⟨_, rfl⟩, ?_⟩, trivial⟩, trivial⟩
  rintro c - hc
  cases hc

end Lifetimes
end Ledger
end SpaceGateway
