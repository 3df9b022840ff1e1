import SpaceGateway.Codec.Framed
import SpaceGateway.Proofs.Directory
/-!
The configured servers. Settings are valid just when the registry takes every configured server as a
new one, so a gateway that announces them loses none.
-/
namespace SpaceGateway

open Identity (fold)

namespace Registry

/-- Adds servers one after the other. -/
def addAll (r : Registry) (servers : List ServerInfo) : Registry :=
  servers.foldl (fun r info => (r.add info).2.1) r

/-- Of servers that are added one after the other, the first for which a server that is linked already
is handed over. -/
def firstStored? (r : Registry) : List ServerInfo → Option ServerInfo
  | [] => none
  | info :: rest =>
    if (r.add info).1 ∈ r.linked then some info else (r.add info).2.1.firstStored? rest

variable {r : Registry} {d : Directory} {info : ServerInfo} {servers : List ServerInfo}
variable {buffer : Nat}

theorem Shows.length_not_linked (h : r.Shows d) : r.servers.length ∉ r.linked := by
  intro hm
  obtain ⟨e, -, he⟩ := exists_entry h.entries hm
  obtain ⟨s, hs, -⟩ := listed_iff.1 he
  exact Nat.lt_irrefl _ (List.getElem?_eq_some_iff.1 hs).1

/-- A linked server is handed over just for an identity that is present. -/
theorem Shows.stored_iff (h : r.Shows d) :
    (r.add info).1 ∈ r.linked ↔ (d.get? info.identity).isSome := by
  have hf := h.find? info.identity
  unfold Registry.add
  cases hg : d.get? info.identity with
  | some e =>
    rw [hg] at hf
    rw [hf]
    simpa using List.mem_of_find?_eq_some hf
  | none =>
    rw [hg] at hf
    rw [hf]
    simpa using h.length_not_linked

theorem Shows.grows (h : r.Shows d) (hg : d.get? info.identity = none) :
    ∃ d', (r.add info).2.1.Shows d' ∧ d'.added = d.added + 1 ∧
      d'.servers.entries = d.servers.entries ++ [(fold info.identity, d.added, info)] := by
  refine ⟨_, (h.add info).2, ?_, ?_⟩
  · simp [Directory.add, hg]
  · simp only [Directory.add, hg]
    exact OrderedMap.entries_insert hg

/-- If each is new, the servers stand behind those that were there, in order. -/
theorem Shows.addAll (h : r.Shows d) (hnew : r.firstStored? servers = none) :
    ∃ d', (r.addAll servers).Shows d' ∧ d'.servers.entries = d.servers.entries ++
      (servers.zipIdx d.added).map fun x => (fold x.1.identity, x.2, x.1) := by
  induction servers generalizing r d with
  | nil => exact ⟨d, h, by simp⟩
  | cons info rest ih =>
    rw [firstStored?, ite_eq_iff] at hnew
    obtain ⟨-, hsome⟩ | ⟨habsent, hnew⟩ := hnew
    · cases hsome
    · rw [h.stored_iff, Option.not_isSome_iff_eq_none] at habsent
      obtain ⟨d₁, h₁, hadded, hentries⟩ := h.grows habsent
      obtain ⟨d₂, h₂, hrest⟩ := ih h₁ hnew
      refine ⟨d₂, h₂, ?_⟩
      rw [hrest, hentries, hadded, List.append_assoc, List.zipIdx_cons, List.map_cons,
        List.singleton_append]

/-- Servers whose identities are all present change nothing. -/
theorem Shows.addAll_still (h : r.Shows d)
    (hpresent : ∀ info ∈ servers, (d.get? info.identity).isSome) : r.addAll servers = r := by
  induction servers with
  | nil => rfl
  | cons info rest ih =>
    have hstill : (r.add info).2.1 = r :=
      @Shows.still r d h (.add info) (Directory.add_still_iff.2 (hpresent info (by simp)))
    rw [Registry.addAll, List.foldl_cons, hstill]
    exact ih fun i hi => hpresent i (by simp [hi])

/-- The directory of new servers, in which every one has the number of its place. -/
theorem shows_addAll (hnew : firstStored? { receiveBuffer := buffer } servers = none) :
    ∃ d, (addAll { receiveBuffer := buffer } servers).Shows d ∧
      d.servers.entries = servers.zipIdx.map fun x => (fold x.1.identity, x.2, x.1) :=
  (shows_empty buffer).addAll hnew

theorem get?_numbered {identity : String} (hi : info ∈ servers) (his : info.is identity = true)
    (hentries : d.servers.entries = servers.zipIdx.map fun x => (fold x.1.identity, x.2, x.1)) :
    ∃ S, d.get? identity = some (S, info) := by
  obtain ⟨S, hS⟩ := List.mem_iff_getElem?.1 hi
  have hkey : fold info.identity = fold identity := Identity.same_iff.1 his
  refine ⟨S, OrderedMap.get?_eq_some_iff.2 ?_⟩
  rw [hentries, ← hkey]
  exact List.mem_map.2 ⟨(info, S), List.mem_zipIdx_iff_getElem?.2 hS, rfl⟩

theorem identities_addAll (hnew : firstStored? { receiveBuffer := buffer } servers = none) :
    (addAll { receiveBuffer := buffer } servers).identities = servers.map (·.identity) := by
  obtain ⟨d, hd, hentries⟩ := shows_addAll hnew
  have hmap : d.identities = servers.map (·.identity) :=
    calc d.servers.entries.map (·.2.2.identity)
        = (servers.zipIdx.map Prod.fst).map (·.identity) := by
          rw [hentries, List.map_map, List.map_map]
          rfl
      _ = servers.map (·.identity) := by rw [List.zipIdx_map_fst]
  exact (identities_entries hd.entries).trans hmap

theorem addAll_addAll (hnew : firstStored? { receiveBuffer := buffer } servers = none) :
    (addAll { receiveBuffer := buffer } servers).addAll servers =
      addAll { receiveBuffer := buffer } servers := by
  obtain ⟨d, hd, hentries⟩ := shows_addAll hnew
  refine hd.addAll_still fun info hi => ?_
  obtain ⟨S, hS⟩ := get?_numbered hi Identity.same_refl hentries
  exact Option.isSome_of_eq_some hS

theorem grows_addAll (r : Registry) (servers : List ServerInfo) : r.Grows (r.addAll servers) := by
  induction servers generalizing r with
  | nil => exact .refl r
  | cons info rest ih => exact (grows_add r info).trans (ih _)

theorem find_addAll (hnew : firstStored? { receiveBuffer := buffer } servers = none)
    (hi : info ∈ servers) {identity : String} (his : info.is identity = true) :
    ∃ S s, (addAll { receiveBuffer := buffer } servers).find identity = .ok S ∧
      (addAll { receiveBuffer := buffer } servers).servers[S]? = some s ∧ s.info = info ∧
      s.client.peer.address = info.address := by
  obtain ⟨d, hd, hentries⟩ := shows_addAll hnew
  obtain ⟨S, hS⟩ := get?_numbered hi his hentries
  obtain ⟨s, hs, he⟩ :=
    listed_iff.1 (listed_of_mem hd.entries (OrderedMap.get?_eq_some_iff.1 hS))
  obtain rfl : s.info = info := congrArg (·.2.2) he
  refine ⟨S, s, ?_, hs, rfl, ?_⟩
  · rw [hd.find, Directory.find, hS]
  · obtain ⟨-, new, hplaces, hpeer⟩ := grows_addAll { receiveBuffer := buffer } servers
    have hmem : s.place ∈ (addAll { receiveBuffer := buffer } servers).places :=
      List.mem_map_of_mem (List.mem_of_getElem? hs)
    rw [hplaces] at hmem
    have hplace : s.place ∈ new := (List.mem_append.1 hmem).resolve_left List.not_mem_nil
    exact congrArg Peer.address (hpeer _ hplace)

end Registry

section Settings
variable {r : Registry} {d : Directory} {servers : List ServerInfo} {seen : List (List Char)}

theorem Directory.isSome_get?_iff {identity : String} :
    (d.get? identity).isSome ↔ fold identity ∈ d.servers.entries.map Prod.fst := by
  rw [← not_iff_not, Option.not_isSome_iff_eq_none]
  exact OrderedMap.get?_eq_none_iff

/-- The identities that were seen are those that are linked, so the check stops where the registry first
has a server already. -/
theorem checkIdentities_eq (h : r.Shows d)
    (hseen : ∀ k, k ∈ seen ↔ k ∈ d.servers.entries.map Prod.fst)
    (hne : ∀ info ∈ servers, info.identity ≠ "") :
    Config.checkIdentities seen servers =
      match r.firstStored? servers with
      | none => .ok ()
      | some info => .error (.duplicateIdentity info.identity) := by
  induction servers generalizing r d seen with
  | nil => rfl
  | cons info rest ih =>
    have hempty : info.identity.isEmpty = false := by simpa using hne info (by simp)
    have hstored : (r.add info).1 ∈ r.linked ↔ seen.contains (fold info.identity) = true := by
      rw [h.stored_iff, Directory.isSome_get?_iff, List.contains_iff_mem, hseen]
    unfold Config.checkIdentities Registry.firstStored?
    rw [hempty]
    by_cases hc : (r.add info).1 ∈ r.linked
    · simp only [hc, hstored.1 hc, if_true, Bool.false_eq_true, if_false]
    · have habsent : d.get? info.identity = none := by
        rwa [h.stored_iff, Option.not_isSome_iff_eq_none] at hc
      obtain ⟨d', h', -, hentries⟩ := h.grows habsent
      have hnot : seen.contains (fold info.identity) = false := by
        rwa [hstored, Bool.not_eq_true] at hc
      simp only [hc, hnot, if_false, Bool.false_eq_true]
      refine ih h' (fun k => ?_) fun i hi => hne i (by simp [hi])
      rw [hentries, List.map_append, List.mem_cons, List.mem_append, hseen, or_comm]
      simp

theorem nonempty_of_checkIdentities {u : Unit} (h : Config.checkIdentities seen servers = .ok u) :
    ∀ info ∈ servers, info.identity ≠ "" := by
  induction servers generalizing seen with
  | nil => simp
  | cons info rest ih =>
    unfold Config.checkIdentities at h
    split at h
    · cases h
    · split at h
      · cases h
      · next hempty _ =>
        intro i hi
        rcases List.mem_cons.1 hi with rfl | hi
        · simpa using hempty
        · exact ih h i hi

/-- Of valid settings every server is new. -/
theorem firstStored?_of_validate {c : Config} {u : Unit} (h : c.validate = .ok u) (buffer : Nat) :
    Registry.firstStored? { receiveBuffer := buffer } c.servers = none := by
  have hcheck : Config.checkIdentities [] c.servers = .ok u := by
    unfold Config.validate at h
    split at h
    · cases h
    · split at h
      · cases h
      · exact h
  have heq : Config.checkIdentities [] c.servers = _ :=
    checkIdentities_eq (Registry.shows_empty buffer) (fun k => Iff.rfl) (nonempty_of_checkIdentities hcheck)
  rw [hcheck] at heq
  cases hf : Registry.firstStored? { receiveBuffer := buffer } c.servers with
  | none => rfl
  | some info =>
    rw [hf] at heq
    cases heq

end Settings

namespace Gateway

/-- Announcing the servers adds them to the registry, and does nothing else. -/
theorem announce_gateway (g : Gateway) :
    g.announce.2.1 = { g with registry := g.registry.addAll g.config.servers } := by
  have hfold (servers : List ServerInfo) (g : Gateway) (ev : List Event) :
      (servers.foldl
        (fun (x : Gateway × List Event) info =>
          ((x.1.discover (.added info)).1, x.2 ++ (x.1.discover (.added info)).2))
        (g, ev)).1 = { g with registry := g.registry.addAll servers } := by
    induction servers generalizing g ev with
    | nil => rfl
    | cons info rest ih => exact ih _ _
  exact hfold g.config.servers g []

/-- What announcing the configured servers makes of a fresh gateway. -/
structure Announces (g : Gateway) (servers : List ServerInfo) : Prop where
  number : g.announce.1 = servers.length
  identities : g.announce.2.1.registry.identities = servers.map (·.identity)
  /-- Every server is found where it is configured to be, in any ASCII case. -/
  found : ∀ info ∈ servers, ∀ identity, info.is identity = true →
    ∃ S s, g.announce.2.1.registry.find identity = .ok S ∧
      g.announce.2.1.registry.servers[S]? = some s ∧ s.info = info ∧
      s.client.peer.address = info.address
  again : g.announce.2.1.announce.1 = servers.length ∧
    g.announce.2.1.announce.2.1 = g.announce.2.1

end Gateway

/-- The settings and the registry agree on what a duplicate is. So a gateway with valid settings knows all
its configured servers once it has announced them. -/
theorem validate_agrees (codec : Codec) (c : Config) :
    (1 ≤ c.workers → 64 ≤ c.receiveBuffer → (∀ info ∈ c.servers, info.identity ≠ "") →
      ∀ buffer, c.validate =
        match Registry.firstStored? { receiveBuffer := buffer } c.servers with
        | none => .ok ()
        | some info => .error (.duplicateIdentity info.identity)) ∧
    (c.validate = .ok () → (Gateway.start codec c).1.Announces c.servers) := by
  constructor
  · intro hworkers hbuffer hne buffer
    have hw : c.workers ≠ 0 := fun h => by simp [h] at hworkers
    have hb : ¬ c.receiveBuffer < 64 := UInt64.not_lt.2 hbuffer
    rw [Config.validate, if_neg hw, if_neg hb]
    exact checkIdentities_eq (Registry.shows_empty buffer) (fun k => Iff.rfl) hne
  · intro hvalid
    have hnew := firstStored?_of_validate hvalid c.receiveBuffer.toNat
    have hgateway := (Gateway.start codec c).1.announce_gateway
    have hregistry : (Gateway.start codec c).1.announce.2.1.registry =
        Registry.addAll { receiveBuffer := c.receiveBuffer.toNat } c.servers := by
      rw [hgateway]
      rfl
    refine ⟨rfl, ?_, ?_, ?_, ?_⟩
    · rw [hregistry]
      exact Registry.identities_addAll hnew
    · rw [hregistry]
      intro info hi identity his
      exact Registry.find_addAll hnew hi his
    · rw [hgateway]
      rfl
    · rw [Gateway.announce_gateway, hregistry, hgateway]
      exact congrArg (fun r => { (Gateway.start codec c).1 with registry := r })
        (Registry.addAll_addAll hnew)

/-- Two servers under one address. -/
def lodgers : Config where
  servers :=
    [{ identity := "SIB-é", address := ⟨"host", 10010⟩ },
      { identity := "sib-É", address := ⟨"host", 10010⟩ }]

theorem validate_agrees_of_lodgers :
    1 ≤ lodgers.workers ∧ 64 ≤ lodgers.receiveBuffer ∧
    (∀ info ∈ lodgers.servers, info.identity ≠ "") ∧
    (lodgers.validate = match Registry.firstStored? { receiveBuffer := 0 } lodgers.servers with
      | none => .ok ()
      | some info => .error (.duplicateIdentity info.identity)) ∧
    lodgers.validate = .ok () ∧
    (Gateway.start Framed.codec lodgers).1.Announces lodgers.servers := by
  have hworkers : 1 ≤ lodgers.workers := by decide
  have hbuffer : 64 ≤ lodgers.receiveBuffer := by decide
  have hne : ∀ info ∈ lodgers.servers, info.identity ≠ "" := by decide
  have hvalid : lodgers.validate = .ok () := by decide
  exact ⟨hworkers, hbuffer, hne, (validate_agrees Framed.codec lodgers).1 hworkers hbuffer hne 0,
    hvalid, (validate_agrees Framed.codec lodgers).2 hvalid⟩

end SpaceGateway
