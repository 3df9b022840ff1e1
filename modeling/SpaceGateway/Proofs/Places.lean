import SpaceGateway.Proofs.Keeping
/-!
Where servers are. A server stays where it is and what it is called, and its client goes there; so the
task of a request is for the server that the request names.
-/
namespace SpaceGateway

/-- What a server is, and where its client goes. -/
abbrev Place := ServerInfo × Peer

def Server.place (s : Server) : Place := (s.info, s.client.peer)

def Registry.places (r : Registry) : List Place := r.servers.map Server.place

/-- Where the client of a server goes. -/
def ServerInfo.peer (i : ServerInfo) (receiveBuffer : Nat) : Peer :=
  ⟨i.identity, i.address, receiveBuffer⟩

/-- Servers are added and nothing else, and the client of a new server goes to that server. -/
structure Registry.Grows (r r' : Registry) : Prop where
  buffer : r'.receiveBuffer = r.receiveBuffer
  places : ∃ new, r'.places = r.places ++ new ∧ ∀ p ∈ new, p.2 = p.1.peer r.receiveBuffer

section Registries
variable {r r' r'' : Registry} {S : ServerId} {s : Server} {c : Client}

theorem Registry.Grows.refl (r : Registry) : r.Grows r := ⟨rfl, [], by simp, by simp⟩

theorem grows_of_eq (hb : r'.receiveBuffer = r.receiveBuffer) (hp : r'.places = r.places) :
    r.Grows r' := ⟨hb, [], by simp [hp], by simp⟩

@[simp] theorem place_letGo : s.letGo.1.place = s.place := by
  unfold Server.letGo
  split
  · rfl
  · split <;> rfl

theorem places_set (hs : r.servers[S]? = some s) {s' : Server} (hp : s'.place = s.place) :
    (r.servers.set S s').map Server.place = r.places := by
  apply List.ext_getElem?
  intro i
  rw [List.map_set, List.getElem?_set, hp]
  split
  · rename_i he
    subst he
    obtain ⟨hlt, rfl⟩ := List.getElem?_eq_some_iff.1 hs
    simp [Registry.places, hlt]
  · rfl

theorem grows_letGo (r : Registry) (S : ServerId) : r.Grows (r.letGo S).1 := by
  cases hs : r.servers[S]? with
  | none =>
    have he : r.letGo S = (r, []) := by simp [Registry.letGo, hs]
    rw [he]
    exact .refl r
  | some s =>
    rw [registry_letGo hs]
    exact grows_of_eq rfl (places_set hs place_letGo)

theorem grows_hold (r : Registry) (S : ServerId) : r.Grows (r.hold S) := by
  refine grows_of_eq rfl ?_
  apply List.ext_getElem?
  intro i
  simp only [Registry.places, Registry.hold, Registry.modify, List.getElem?_map,
    List.getElem?_modify]
  cases r.servers[i]? with
  | none => rfl
  | some s => by_cases he : S = i <;> simp [he, Server.place, Server.hold]

theorem grows_withClient (hs : r.servers[S]? = some s) (hc : c.peer = s.client.peer) :
    r.Grows (r.withClient S c) := by
  refine grows_of_eq rfl ?_
  apply List.ext_getElem?
  intro i
  simp only [Registry.places, List.getElem?_map, servers_withClient]
  by_cases he : S = i
  · subst he
    simp [hs, Server.place, hc]
  · simp [he]

theorem Registry.Grows.trans (h : r.Grows r') (h' : r'.Grows r'') : r.Grows r'' := by
  obtain ⟨hb, new, hp, hnew⟩ := h
  obtain ⟨hb', new', hp', hnew'⟩ := h'
  refine ⟨hb'.trans hb, new ++ new', by rw [hp', hp, List.append_assoc], ?_⟩
  intro p hm
  rcases List.mem_append.1 hm with hm | hm
  · exact hnew p hm
  · rw [hnew' p hm, hb]

theorem grows_add (r : Registry) (info : ServerInfo) : r.Grows (r.add info).2.1 := by
  unfold Registry.add
  cases r.find? info.identity with
  | some id => exact .refl r
  | none =>
    refine ⟨rfl, [(info, info.peer r.receiveBuffer)], ?_, ?_⟩
    · simp [Registry.places, Server.place, Server.create, ServerInfo.peer]
    · simp

theorem grows_remove (r : Registry) (identity : String) : r.Grows (r.remove identity).2.1 := by
  unfold Registry.remove
  cases r.find? identity with
  | none => exact .refl r
  | some id =>
    have h₁ : r.Grows { r with linked := r.linked.erase id } := grows_of_eq rfl rfl
    exact h₁.trans (grows_letGo _ id)

theorem grows_discover (r : Registry) (news : Discovery) : r.Grows (r.discover news).1 := by
  cases news with
  | added info => exact grows_add r info
  | removed identity => exact grows_remove r identity
  | invalid identity => exact grows_remove r identity

theorem grows_attended {t : Task} (hs : r.servers[t.server]? = some s)
    (hc : c.peer = s.client.peer) (call? : Option Call) :
    r.Grows (r.attended t c call?).1 := by
  have h := grows_withClient hs hc
  cases call? with
  | some call => exact h
  | none => exact h.trans (grows_letGo _ t.server)

theorem Registry.Grows.place (h : r.Grows r') {p : Place} (hS : r.places[S]? = some p) :
    r'.places[S]? = some p := by
  obtain ⟨-, new, hp, -⟩ := h
  obtain ⟨hlt, -⟩ := List.getElem?_eq_some_iff.1 hS
  rw [hp, List.getElem?_append_left hlt, hS]

theorem client?_place {g : Gateway} (hc : g.client? S = some c) :
    ∃ info, g.registry.places[S]? = some (info, c.peer) := by
  obtain ⟨s, hs, rfl⟩ := Option.map_eq_some_iff.1 hc
  exact ⟨s.info, by simp [Registry.places, Server.place, hs]⟩

/-- The client of a server goes where it went. -/
theorem Registry.Grows.peer {g g' : Gateway} (h : g.registry.Grows g'.registry) {c' : Client}
    (hc : g.client? S = some c) (hc' : g'.client? S = some c') : c'.peer = c.peer := by
  obtain ⟨info, hp⟩ := client?_place hc
  obtain ⟨info', hp'⟩ := client?_place hc'
  rw [h.place hp] at hp'
  exact (congrArg Prod.snd (Option.some.inj hp')).symm

theorem Registry.find?_is {identity : String} (h : r.find? identity = some S) :
    ∃ p, r.places[S]? = some p ∧ p.1.is identity = true := by
  have hn := List.find?_some h
  simp only [Registry.names, Option.any_eq_true] at hn
  obtain ⟨s, hs, hi⟩ := hn
  exact ⟨s.place, by simp [Registry.places, hs], hi⟩

end Registries

namespace Ledger

/-- What is known of the servers of a ledger, and of those that its requests are for. -/
structure Placed (codec : Codec) (config : Config) (l : Ledger) : Prop where
  codec : l.gateway.codec = codec
  buffer : l.gateway.registry.receiveBuffer = config.receiveBuffer.toNat
  peer : ∀ p ∈ l.gateway.registry.places, p.2 = p.1.peer config.receiveBuffer.toNat
  named : ∀ o ∈ l.orders, ∀ S, o.server = some S →
    ∃ p, l.gateway.registry.places[S]? = some p ∧ p.1.is o.request.server = true

section Placed
variable {codec : Codec} {config : Config} {l l' : Ledger} {mv : Move} {P : Ledger → Move → Prop}

theorem Placed.grows (h : l.Placed codec config) (hcodec : l'.gateway.codec = l.gateway.codec)
    (hr : l.gateway.registry.Grows l'.gateway.registry)
    (ho : ∀ o ∈ l'.orders, o ∈ l.orders ∨ ∀ S, o.server = some S →
      l.gateway.registry.find? o.request.server = some S) : l'.Placed codec config := by
  refine ⟨hcodec.trans h.codec, hr.buffer.trans h.buffer, ?_, ?_⟩
  · obtain ⟨-, new, hp, hnew⟩ := hr
    intro p hm
    rw [hp] at hm
    rcases List.mem_append.1 hm with hm | hm
    · exact h.peer p hm
    · rw [hnew p hm, h.buffer]
  · intro o hm S hS
    rcases ho o hm with hm | hfind
    · obtain ⟨p, hpS, hi⟩ := h.named o hm S hS
      exact ⟨p, hr.place hpS, hi⟩
    · obtain ⟨p, hpS, hi⟩ := Registry.find?_is (hfind S hS)
      exact ⟨p, hr.place hpS, hi⟩

theorem placed_start : (start codec config).Placed codec config where
  codec := rfl
  buffer := rfl
  peer p hp := by cases hp
  named o ho := by cases ho

theorem grows_work (h : l.Sound) {w : WorkerId} (hmv : mv.worker? = some w) (ha : l.Allows mv) :
    (l.move mv).gateway.codec = l.gateway.codec ∧
      l.gateway.registry.Grows (l.move mv).gateway.registry := by
  rcases h.worked_cases hmv ha with ⟨k, t, hs⟩ | ⟨p, ev, he, -⟩
  · obtain ⟨w', i, taking, c, own, next, -, -, -, hc, -, he, c', call?, hatt, hadv⟩ := hs
    obtain ⟨s, hs, rfl⟩ := Option.map_eq_some_iff.1 hc
    rw [he]
    refine ⟨hatt.codec, ?_⟩
    change Registry.Grows _ next.1.registry
    rw [hatt.registry]
    exact grows_attended hs hadv.peer call?
  · rw [he]
    exact ⟨rfl, .refl _⟩

theorem grows_order (l : Ledger) (caller : CallerId) (r : CallerRequest) :
    (l.order caller r).gateway.codec = l.gateway.codec ∧
      l.gateway.registry.Grows (l.order caller r).gateway.registry := by
  change (l.gateway.request caller r).2.1.codec = _ ∧
    Registry.Grows _ (l.gateway.request caller r).2.1.registry
  rcases request_cases l.gateway caller r with ⟨server, -, -, -, hreg, hcodec, -⟩ | ⟨-, hg, -⟩
  · rw [hreg]
    exact ⟨hcodec, grows_hold _ server⟩
  · rw [hg]
    exact ⟨rfl, .refl _⟩

/-- Every move leaves the servers in their places. -/
theorem Sound.grows (h : l.Sound) (ha : l.Allows mv) :
    (l.move mv).gateway.codec = l.gateway.codec ∧
      l.gateway.registry.Grows (l.move mv).gateway.registry := by
  cases mv with
  | work w => exact grows_work h rfl ha
  | answer w a => exact grows_work h rfl ha
  | request caller r => exact grows_order l caller r
  | discover news => exact ⟨rfl, grows_discover _ news⟩
  | depart caller => exact ⟨rfl, .refl _⟩
  | shutDown => exact ⟨rfl, .refl _⟩
  | returnFrom i =>
    change (l.gateway.returnFrom i).1.codec = _ ∧
      Registry.Grows _ (l.gateway.returnFrom i).1.registry
    unfold Gateway.returnFrom
    split
    · exact ⟨rfl, .refl _⟩
    · exact ⟨rfl, .refl _⟩

/-- A task is made for the server that is found by the name in its request. -/
theorem orders_move (h : l.Sound) (ha : l.Allows mv) : ∀ o ∈ (l.move mv).orders,
    o ∈ l.orders ∨ ∀ S, o.server = some S → l.gateway.registry.find? o.request.server = some S := by
  have hwork {w : WorkerId} (hmv : mv.worker? = some w) : (l.move mv).orders = l.orders := by
    rcases h.worked_cases hmv ha with ⟨k, t, hs⟩ | ⟨p, ev, he, -⟩
    · obtain ⟨w', i, taking, c, own, next, -, -, -, -, -, he, -⟩ := hs
      rw [he]
      rfl
    · rw [he]
      rfl
  intro o ho
  cases mv with
  | work w =>
    rw [hwork rfl] at ho
    exact .inl ho
  | answer w a =>
    rw [hwork rfl] at ho
    exact .inl ho
  | request caller r =>
    rcases List.mem_append.1 ho with ho | ho
    · exact .inl ho
    · right
      intro S hS
      obtain rfl := List.mem_singleton.1 ho
      dsimp only at hS
      split at hS
      · exact hS
      · cases hS
  | _ => exact .inl ho

theorem Placed.move (h : l.Placed codec config) (hS : l.Sound) (ha : l.Allows mv) :
    (l.move mv).Placed codec config := by
  obtain ⟨hcodec, hr⟩ := hS.grows ha
  exact h.grows hcodec hr (orders_move hS ha)

/-- Along a run every server stays in its place. -/
theorem placed_of_run (run : Run P (start codec config) l) : l.Placed codec config := by
  induction run with
  | refl => exact placed_start
  | snoc run allowed _ ih => exact ih.move (sound_start.run run) allowed

/-- The client of the server of a task goes to the server that the request names. -/
theorem Placed.client (h : l.Placed codec config) {o : Order} (ho : o ∈ l.orders) {S : ServerId}
    (hS : o.server = some S) {c : Client} (hc : l.gateway.client? S = some c) :
    Identity.same c.peer.space o.request.server = true ∧
      c.peer.receiveBuffer = config.receiveBuffer.toNat := by
  obtain ⟨p, hp, hi⟩ := h.named o ho S hS
  obtain ⟨info, hinfo⟩ := client?_place hc
  rw [hp] at hinfo
  obtain rfl := Option.some.inj hinfo
  have hpeer := h.peer _ (List.mem_of_getElem? hp)
  dsimp only at hpeer
  rw [hpeer]
  exact ⟨hi, rfl⟩

end Placed
end Ledger
end SpaceGateway
