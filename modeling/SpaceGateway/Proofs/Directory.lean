import Mathlib.Data.List.Forall2
import SpaceGateway.Proofs.Places
/-!
The registry as a map. To those who use it, the registry is a map from identities without regard to
ASCII case to servers, and keeps the order in which the identities came.
-/
namespace SpaceGateway

open Identity (fold)

/-- A map that keeps its entries in the order in which their keys came. -/
structure OrderedMap (κ α : Type) where
  entries : List (κ × α)
  distinct : (entries.map Prod.fst).Nodup

namespace OrderedMap
variable {κ α : Type} [BEq κ] [LawfulBEq κ] {m : OrderedMap κ α} {k : κ} {a : α}

def empty : OrderedMap κ α := ⟨[], List.nodup_nil⟩

def get? (m : OrderedMap κ α) (k : κ) : Option α := m.entries.lookup k

theorem get?_eq_none_iff : m.get? k = none ↔ k ∉ m.entries.map Prod.fst := by
  rw [get?, List.lookup_eq_none_iff, List.mem_map]
  constructor
  · rintro h ⟨e, he, rfl⟩
    simpa using h e he
  · intro h e he
    simpa using fun hk => h ⟨e, he, hk.symm⟩

theorem get?_eq_some_iff : m.get? k = some a ↔ (k, a) ∈ m.entries := lookup_eq_some_iff m.distinct

/-- Adds an entry behind the others, if its key is absent. -/
def insert (m : OrderedMap κ α) (k : κ) (a : α) : OrderedMap κ α :=
  if h : k ∈ m.entries.map Prod.fst then m
  else
    { entries := m.entries ++ [(k, a)]
      distinct := by
        rw [List.map_append]
        exact m.distinct.append (List.nodup_singleton k) (List.disjoint_singleton.2 h) }

def erase (m : OrderedMap κ α) (k : κ) : OrderedMap κ α where
  entries := m.entries.filter (·.1 != k)
  distinct := (List.filter_sublist.map Prod.fst).nodup m.distinct

theorem entries_insert (h : m.get? k = none) : (m.insert k a).entries = m.entries ++ [(k, a)] := by
  rw [insert, dif_neg (get?_eq_none_iff.1 h)]

theorem mem_insert {e : κ × α} (h : e ∈ (m.insert k a).entries) : e ∈ m.entries ∨ e = (k, a) := by
  unfold insert at h
  split at h
  · exact .inl h
  · simpa using h

theorem erase_eq_iff : m.erase k = m ↔ m.get? k = none := by
  have hentries : m.erase k = m ↔ (m.erase k).entries = m.entries := by
    constructor
    · exact congrArg entries
    · intro h
      cases m
      simpa [erase] using h
  rw [hentries, get?_eq_none_iff, erase, List.filter_eq_self, List.mem_map]
  constructor
  · rintro h ⟨e, he, rfl⟩
    simpa using h e he
  · intro h e he
    simpa using fun hk => h ⟨e, he, hk⟩

end OrderedMap

/-- The linked servers by identity, the first added first. -/
structure Directory where
  /-- How many servers were ever added. The next one gets this number. -/
  added : Nat
  servers : OrderedMap (List Char) (ServerId × ServerInfo)
  known : ∀ e ∈ servers.entries, e.2.1 < added

namespace Directory

/-- What the users of a registry ask it. -/
inductive Query
  | add (info : ServerInfo)
  | remove (identity : String)
  | find (identity : String)
  | discover (news : Discovery)
  | identities

inductive Response
  | server (id : ServerId)
  | removed (present : Bool)
  | found (result : Except Error ServerId)
  | identities (spellings : List String)
  | done

/-- The server that a response hands over. -/
def Response.server? : Response → Option ServerId
  | server id => some id
  | found result => result.toOption
  | _ => none

def empty : Directory := ⟨0, .empty, by simp [OrderedMap.empty]⟩

def get? (d : Directory) (identity : String) : Option (ServerId × ServerInfo) :=
  d.servers.get? (fold identity)

/-- The server that has the identity, or else a new one. -/
def add (d : Directory) (info : ServerInfo) : ServerId × Directory :=
  match d.get? info.identity with
  | some (id, _) => (id, d)
  | none =>
    (d.added,
      { added := d.added + 1
        servers := d.servers.insert (fold info.identity) (d.added, info)
        known := by
          intro e he
          obtain he | rfl := OrderedMap.mem_insert he
          · exact Nat.lt_succ_of_lt (d.known e he)
          · exact Nat.lt_succ_self _ })

def remove (d : Directory) (identity : String) : Bool × Directory :=
  ((d.get? identity).isSome,
    { d with
      servers := d.servers.erase (fold identity)
      known := fun e he => d.known e (List.mem_of_mem_filter he) })

def find (d : Directory) (identity : String) : Except Error ServerId :=
  match d.get? identity with
  | some (id, _) => .ok id
  | none => .error (.serverNotFound identity)

/-- The identities as they were first spelt. -/
def identities (d : Directory) : List String := d.servers.entries.map (·.2.2.identity)

def answer (d : Directory) : Query → Response × Directory
  | .add info => (.server (d.add info).1, (d.add info).2)
  | .remove identity => (.removed (d.remove identity).1, (d.remove identity).2)
  | .find identity => (.found (d.find identity), d)
  | .discover (.added info) => (.done, (d.add info).2)
  | .discover (.removed identity) => (.done, (d.remove identity).2)
  | .discover (.invalid identity) => (.done, (d.remove identity).2)
  | .identities => (.identities d.identities, d)

def run (d : Directory) : List Query → List Response × Directory
  | [] => ([], d)
  | q :: rest =>
    let (response, d) := d.answer q
    let (responses, d) := d.run rest
    (response :: responses, d)

variable {d : Directory} {identity : String} {info : ServerInfo} {id : ServerId}

theorem get?_known (h : d.get? identity = some (id, info)) : id < d.added :=
  d.known _ (OrderedMap.get?_eq_some_iff.1 h)

theorem add_still_iff : (d.add info).2 = d ↔ (d.get? info.identity).isSome := by
  unfold add
  cases h : d.get? info.identity with
  | some e => simp
  | none =>
    have hne : d.added + 1 ≠ d.added := Nat.succ_ne_self _
    simpa using fun he => hne (congrArg added he)

theorem remove_still_iff : (d.remove identity).2 = d ↔ d.get? identity = none := by
  rw [get?, ← OrderedMap.erase_eq_iff]
  constructor
  · exact congrArg servers
  · intro h
    cases d
    simpa [remove] using h

theorem added_answer (d : Directory) (q : Query) : d.added ≤ (d.answer q).2.added := by
  have hadd (info : ServerInfo) : d.added ≤ (d.add info).2.added := by
    unfold add
    split
    · exact Nat.le_refl _
    · exact Nat.le_succ _
  cases q with
  | add info => exact hadd info
  | discover news =>
    cases news with
    | added info => exact hadd info
    | _ => exact Nat.le_refl _
  | _ => exact Nat.le_refl _

/-- Only servers that were added are handed over. -/
theorem server?_answer {q : Query} (h : (d.answer q).1.server? = some id) :
    id < (d.answer q).2.added := by
  cases q with
  | add info =>
    obtain rfl : (d.add info).1 = id := Option.some.inj h
    change (d.add info).1 < (d.add info).2.added
    unfold add
    split
    · next hg => exact get?_known hg
    · exact Nat.lt_succ_self _
  | find identity =>
    change (d.find identity).toOption = some id at h
    unfold find at h
    split at h
    · next hg =>
      obtain rfl := Option.some.inj h
      exact get?_known hg
    · cases h
  | discover news => cases news <;> cases h
  | _ => cases h

theorem added_run (d : Directory) (qs : List Query) : d.added ≤ (d.run qs).2.added := by
  induction qs generalizing d with
  | nil => exact Nat.le_refl _
  | cons q rest ih => exact Nat.le_trans (added_answer d q) (ih _)

theorem server?_run {qs : List Query} {x : Response} (hx : x ∈ (d.run qs).1)
    (h : x.server? = some id) : id < (d.run qs).2.added := by
  induction qs generalizing d with
  | nil => cases hx
  | cons q rest ih =>
    rcases List.mem_cons.1 hx with rfl | hx
    · exact Nat.lt_of_lt_of_le (server?_answer h) (added_run _ rest)
    · exact ih hx

end Directory

namespace Registry

open Directory (Query Response)

def answer (r : Registry) : Query → Response × Registry
  | .add info => (.server (r.add info).1, (r.add info).2.1)
  | .remove identity => (.removed (r.remove identity).1, (r.remove identity).2.1)
  | .find identity => (.found (r.find identity), r)
  | .discover news => (.done, (r.discover news).1)
  | .identities => (.identities r.identities, r)

/-- What happens to a registry. Besides what it is asked, its servers are held, let go and used. -/
inductive Move
  | ask (q : Query)
  | hold (server : ServerId)
  | letGo (server : ServerId)
  | use (server : ServerId) (c : Client)

def Move.query? : Move → Option Query
  | ask q => some q
  | _ => none

/-- The responses to what is asked along some moves, and the registry after them. -/
def run (r : Registry) : List Move → List Response × Registry
  | [] => ([], r)
  | .ask q :: rest =>
    let (response, r) := r.answer q
    let (responses, r) := r.run rest
    (response :: responses, r)
  | .hold server :: rest => (r.hold server).run rest
  | .letGo server :: rest => (r.letGo server).1.run rest
  | .use server c :: rest => (r.withClient server c).run rest

/-- Whether two servers have identities that differ by more than ASCII case. -/
def Apart (r : Registry) (a b : ServerId) : Prop :=
  ∀ s t, r.servers[a]? = some s → r.servers[b]? = some t → t.info.is s.info.identity = false

/-- What a linked server is found by, and what is found. -/
def listed? (r : Registry) (id : ServerId) : Option (List Char × ServerId × ServerInfo) :=
  r.servers[id]?.map fun s => (fold s.info.identity, id, s.info)

/-- Whether servers are found as these, one by one. -/
abbrev Lists (r : Registry) : List ServerId → List (List Char × ServerId × ServerInfo) → Prop :=
  List.Forall₂ fun id e => r.listed? id = some e

/-- The linked servers are those of a directory, in its order. -/
structure Shows (r : Registry) (d : Directory) : Prop where
  entries : r.Lists r.linked d.servers.entries
  added : r.servers.length = d.added

section Entries
variable {r r' : Registry} {d : Directory} {l : List ServerId} {id : ServerId} {identity : String}
variable {es : List (List Char × ServerId × ServerInfo)} {e : List Char × ServerId × ServerInfo}

theorem listed_iff : r.listed? id = some e ↔
    ∃ s, r.servers[id]? = some s ∧ (fold s.info.identity, id, s.info) = e := by
  rw [listed?, Option.map_eq_some_iff]

theorem names_listed (h : r.listed? id = some e) (identity : String) :
    r.names id identity = (fold identity == e.1) := by
  obtain ⟨s, hs, rfl⟩ := listed_iff.1 h
  simp [names, hs, ServerInfo.is, Identity.same, BEq.comm]

theorem listed_handle (h : r.listed? id = some e) : e.2.1 = id := by
  obtain ⟨s, -, rfl⟩ := listed_iff.1 h
  rfl

/-- The scan of the linked servers finds what the map has. -/
theorem find?_entries (h : r.Lists l es) (identity : String) :
    l.find? (r.names · identity) = (es.lookup (fold identity)).map Prod.fst := by
  induction h with
  | nil => rfl
  | @cons id e l es he _ ih =>
    rw [List.find?_cons, names_listed he, List.lookup_cons, ih]
    cases fold identity == e.1 with
    | true => simp [listed_handle he]
    | false => rfl

/-- As no key comes twice, what the scan finds first is all that the map loses. -/
theorem erase_entries (h : r.Lists l es) (hdistinct : (es.map Prod.fst).Nodup)
    (hf : l.find? (r.names · identity) = some id) :
    r.Lists (l.erase id) (es.filter (·.1 != fold identity)) := by
  induction h with
  | nil => cases hf
  | @cons a e l es he h ih =>
    obtain ⟨hnew, hdistinct⟩ := List.nodup_cons.1 hdistinct
    have hnames := names_listed he identity
    rw [List.find?_cons] at hf
    cases hk : fold identity == e.1 with
    | true =>
      rw [hnames, hk] at hf
      obtain rfl := Option.some.inj hf
      have hkey : fold identity = e.1 := eq_of_beq hk
      have hkept : es.filter (·.1 != fold identity) = es := by
        rw [List.filter_eq_self]
        intro x hx
        have hxe : x.1 ≠ e.1 := fun hxe => hnew (hxe ▸ List.mem_map_of_mem hx)
        simpa [hkey] using hxe
      rw [List.erase_cons_head, List.filter_cons_of_neg (by simp [hkey]), hkept]
      exact h
    | false =>
      rw [hnames, hk] at hf
      have hne : a ≠ id := by
        rintro rfl
        have hfound := List.find?_some hf
        rw [hnames, hk] at hfound
        cases hfound
      have hkey : e.1 ≠ fold identity := fun h => by simp [h] at hk
      rw [List.erase_cons_tail (by simpa using hne), List.filter_cons_of_pos (by simpa using hkey)]
      exact .cons he (ih hdistinct hf)

theorem exists_entry (h : r.Lists l es) (hid : id ∈ l) : ∃ e ∈ es, r.listed? id = some e := by
  induction h with
  | nil => cases hid
  | cons he _ ih =>
    rcases List.mem_cons.1 hid with rfl | hid
    · exact ⟨_, List.mem_cons_self, he⟩
    · obtain ⟨e, hmem, he⟩ := ih hid
      exact ⟨e, List.mem_cons_of_mem _ hmem, he⟩

theorem listed_of_mem (h : r.Lists l es) (he : e ∈ es) : r.listed? e.2.1 = some e := by
  induction h with
  | nil => cases he
  | cons hentry _ ih =>
    rcases List.mem_cons.1 he with rfl | he
    · rwa [listed_handle hentry]
    · exact ih he

/-- No two servers of different keys have one identity. -/
theorem apart_entries (h : r.Lists l es) (hdistinct : (es.map Prod.fst).Nodup) :
    l.Pairwise r.Apart := by
  induction h with
  | nil => exact .nil
  | @cons a e l es he h ih =>
    obtain ⟨hnew, hdistinct⟩ := List.nodup_cons.1 hdistinct
    refine .cons ?_ (ih hdistinct)
    intro b hb s t hs ht
    obtain ⟨s', hs', rfl⟩ := listed_iff.1 he
    obtain rfl := Option.some.inj (hs.symm.trans hs')
    obtain ⟨x, hx, hbx⟩ := exists_entry h hb
    obtain ⟨t', ht', rfl⟩ := listed_iff.1 hbx
    obtain rfl := Option.some.inj (ht.symm.trans ht')
    have hne : fold t.info.identity ≠ fold s.info.identity := fun heq =>
      hnew (List.mem_map.2 ⟨_, hx, heq⟩)
    simpa [ServerInfo.is, Identity.same] using hne

theorem identities_entries (h : r.Lists l es) :
    (l.filterMap fun id => r.servers[id]?.map (·.info.identity)) = es.map (·.2.2.identity) := by
  induction h with
  | nil => rfl
  | cons he _ ih =>
    obtain ⟨s, hs, rfl⟩ := listed_iff.1 he
    rw [List.filterMap_cons, hs, ih]
    rfl

/-- A registry in which others at most hold, let go and use the servers. -/
structure Retains (r r' : Registry) : Prop where
  linked : r'.linked = r.linked
  infos : r'.servers.map Server.info = r.servers.map Server.info

theorem retains_modify {f : Server → Server} (hf : ∀ s, (f s).info = s.info) :
    r.Retains (r.modify id f) := by
  refine ⟨rfl, List.ext_getElem? fun i => ?_⟩
  simp only [modify, List.getElem?_map, List.getElem?_modify]
  cases r.servers[i]? with
  | none => rfl
  | some s => by_cases he : id = i <;> simp [he, hf]

theorem retains_letGo (r : Registry) (id : ServerId) : r.Retains (r.letGo id).1 := by
  cases hs : r.servers[id]? with
  | none => simp [letGo, hs, Retains.mk rfl rfl]
  | some s =>
    rw [registry_letGo hs]
    refine ⟨rfl, ?_⟩
    have hplaces := congrArg (List.map Prod.fst) (places_set hs place_letGo)
    simpa [places, Function.comp_def, Server.place] using hplaces

theorem Retains.listed? (h : r.Retains r') (id : ServerId) : r'.listed? id = r.listed? id := by
  have hinfo : r'.servers[id]?.map Server.info = r.servers[id]?.map Server.info := by
    rw [← List.getElem?_map, h.infos, List.getElem?_map]
  have hentry (r : Registry) : r.listed? id =
      (r.servers[id]?.map Server.info).map fun info => (fold info.identity, id, info) := by
    rw [Option.map_map]
    rfl
  rw [hentry r', hinfo, ← hentry r]

theorem Shows.retained (h : r.Shows d) (hr : r.Retains r') : r'.Shows d where
  entries := by
    rw [hr.linked]
    exact h.entries.imp fun id e he => (hr.listed? id).trans he
  added := by
    have hlength := congrArg List.length hr.infos
    rw [List.length_map, List.length_map] at hlength
    exact hlength.trans h.added

end Entries

theorem shows_empty (buffer : Nat) : Shows { receiveBuffer := buffer } .empty := ⟨.nil, rfl⟩

section Shows
variable {r : Registry} {d : Directory}

theorem Shows.find? (h : r.Shows d) (identity : String) :
    r.find? identity = (d.get? identity).map Prod.fst := find?_entries h.entries identity

theorem Shows.find (h : r.Shows d) (identity : String) : r.find identity = d.find identity := by
  rw [Registry.find, h.find?, Directory.find]
  cases d.get? identity <;> rfl

theorem Shows.add (h : r.Shows d) (info : ServerInfo) :
    (r.add info).1 = (d.add info).1 ∧ (r.add info).2.1.Shows (d.add info).2 := by
  unfold Registry.add Directory.add
  rw [h.find?]
  cases hg : d.get? info.identity with
  | some e => exact ⟨rfl, h⟩
  | none =>
    refine ⟨h.added, ?_, ?_⟩
    · rw [OrderedMap.entries_insert hg]
      refine List.rel_append (h.entries.imp ?_) (.cons ?_ .nil)
      · intro id e he
        obtain ⟨s, hs, rfl⟩ := listed_iff.1 he
        obtain ⟨hlt, -⟩ := List.getElem?_eq_some_iff.1 hs
        exact listed_iff.2 ⟨s, (List.getElem?_append_left hlt).trans hs, rfl⟩
      · refine listed_iff.2 ⟨_, List.getElem?_concat_length, ?_⟩
        rw [h.added]
    · simp [h.added]

theorem Shows.remove (h : r.Shows d) (identity : String) :
    (r.remove identity).1 = (d.remove identity).1 ∧
      (r.remove identity).2.1.Shows (d.remove identity).2 := by
  have hf := h.find? identity
  unfold Registry.remove
  cases hg : d.get? identity with
  | none =>
    rw [hg] at hf
    rw [hf, Directory.remove_still_iff.2 hg]
    exact ⟨by simp [Directory.remove, hg], h⟩
  | some e =>
    rw [hg] at hf
    rw [hf]
    refine ⟨by simp [Directory.remove, hg], ?_⟩
    have hunlinked : Shows { r with linked := r.linked.erase e.1 } (d.remove identity).2 :=
      ⟨erase_entries h.entries d.servers.distinct hf, h.added⟩
    exact hunlinked.retained (retains_letGo _ e.1)

/-- A registry answers as the directory that it shows, and shows the directory after it. -/
theorem Shows.answer (h : r.Shows d) (q : Query) :
    (r.answer q).1 = (d.answer q).1 ∧ (r.answer q).2.Shows (d.answer q).2 := by
  cases q with
  | add info => exact ⟨congrArg _ (h.add info).1, (h.add info).2⟩
  | remove identity => exact ⟨congrArg _ (h.remove identity).1, (h.remove identity).2⟩
  | find identity => exact ⟨congrArg _ (h.find identity), h⟩
  | discover news =>
    cases news with
    | added info => exact ⟨rfl, (h.add info).2⟩
    | removed identity => exact ⟨rfl, (h.remove identity).2⟩
    | invalid identity => exact ⟨rfl, (h.remove identity).2⟩
  | identities => exact ⟨congrArg _ (identities_entries h.entries), h⟩

theorem Shows.run (h : r.Shows d) (moves : List Move) :
    (r.run moves).1 = (d.run (moves.filterMap Move.query?)).1 ∧
      (r.run moves).2.Shows (d.run (moves.filterMap Move.query?)).2 := by
  induction moves generalizing r d with
  | nil => exact ⟨rfl, h⟩
  | cons mv rest ih =>
    cases mv with
    | ask q =>
      obtain ⟨hresponse, hshows⟩ := h.answer q
      obtain ⟨hresponses, hshows⟩ := ih hshows
      exact ⟨congrArg₂ List.cons hresponse hresponses, hshows⟩
    | hold server => exact ih (h.retained (retains_modify fun _ => rfl))
    | letGo server => exact ih (h.retained (retains_letGo r server))
    | use server c => exact ih (h.retained (retains_modify fun _ => rfl))

/-- What changes nothing in the directory leaves the registry as it is. -/
theorem Shows.still (h : r.Shows d) {q : Query} (hq : (d.answer q).2 = d) : (r.answer q).2 = r := by
  have hadd {info : ServerInfo} (hd : (d.add info).2 = d) : (r.add info).2.1 = r := by
    obtain ⟨e, he⟩ := Option.isSome_iff_exists.1 (Directory.add_still_iff.1 hd)
    simp [Registry.add, h.find?, he]
  have hremove {identity : String} (hd : (d.remove identity).2 = d) :
      (r.remove identity).2.1 = r := by
    simp [Registry.remove, h.find?, Directory.remove_still_iff.1 hd]
  cases q with
  | add info => exact hadd hq
  | remove identity => exact hremove hq
  | discover news =>
    cases news with
    | added info => exact hadd hq
    | removed identity => exact hremove hq
    | invalid identity => exact hremove hq
  | _ => rfl

end Shows

/-- A registry with some responses behind it is a directory with others. -/
structure ActsAs (r : Registry) (given : List Response) (d : Directory) (due : List Response) :
    Prop where
  responses : given = due
  shows : r.Shows d
  identities : r.identities = d.identities
  /-- What would not change the directory changes nothing. -/
  still : ∀ q, (d.answer q).2 = d → (r.answer q).2 = r
  /-- The next server that is new is none that was ever handed over. -/
  fresh : ∀ x ∈ given, ∀ id, x.server? = some id → id < d.added
  apart : r.linked.Pairwise r.Apart

/-- Whatever a registry is asked from its start on, and whatever is done with its servers meanwhile, it
acts as the directory that is asked the same. -/
theorem acts_as_directory (buffer : Nat) (moves : List Move) :
    (run { receiveBuffer := buffer } moves).2.ActsAs (run { receiveBuffer := buffer } moves).1
      (Directory.empty.run (moves.filterMap Move.query?)).2
      (Directory.empty.run (moves.filterMap Move.query?)).1 := by
  obtain ⟨hresponses, hshows⟩ := (shows_empty buffer).run moves
  refine ⟨hresponses, hshows, identities_entries hshows.entries, fun q => hshows.still, ?_,
    apart_entries hshows.entries (OrderedMap.distinct _)⟩
  intro x hx id hid
  rw [hresponses] at hx
  exact Directory.server?_run hx hid

end Registry
end SpaceGateway
