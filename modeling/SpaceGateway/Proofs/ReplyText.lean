import SpaceGateway.Reply.Form
import SpaceGateway.Proofs.Records
/-!
Replies are read from every text that presents them, wherever the tag stands among their members.
-/
namespace SpaceGateway

open Json (Node Part Content)

theorem Outcome.takePlain_json (o : Outcome) : o.json.node.takePlain variants = .ok o := by
  cases o <;> rfl

namespace Reply

variable {r : Reply} {n : Node} {depth : Nat} {content : Content} {name access : String}
  {o : Outcome}

/-- The members of a reply with the values that are written for them, its tag first. -/
def rows (r : Reply) : Json.Rows := r.members.map fun m => (m.1, some m.2)

theorem json_eq (r : Reply) : r.json = r.rows.compact := by
  cases r <;> rfl

/-- A reply as the array of its tag and its other members. -/
def positional (r : Reply) : Json := r.rows.positional

/-- Whether a node inside `depth` containers presents a reply. Members of other names are taken up
whole, so they must be readable and not too deep. -/
def Shows (depth : Nat) (r : Reply) (n : Node) : Prop :=
  Json.Presents (r.rows.map .of) (Json.Within (depth + 1)) n

def kind : Reply → Kind
  | joined .. => .joined
  | inserted .. => .inserted
  | updated .. => .updated
  | removed .. => .removed
  | results .. => .results
  | subscribed .. => .subscribed
  | changed .. => .changed
  | unsubscribed .. => .unsubscribed

theorem rows_tagged (r : Reply) : ∃ tag,
    r.rows = ("reply", some (.string tag)) :: r.rows.tail ∧ tags.lookup tag = some r.kind := by
  cases r <;> exact ⟨_, rfl, rfl⟩

theorem nodup_names (r : Reply) : ((r.rows.map Part.of).map Part.name).Nodup := by
  cases r <;> simp [rows, members, head, Part.of]

theorem suits_text (key s : String) : (Part.of (key, some (.string s))).Suits (textField key) :=
  (Json.reads_written (Node.readText_string s)).suits

/-- What most replies hold beside the tag: a mark, an outcome, and texts by their names. -/
def body (access : String) (o : Outcome) (texts : List (String × String)) : List Part :=
  .of ("access_id", some (.string access)) :: .of ("status", some o.json) ::
    texts.map fun t => .of (t.1, some (.string t.2))

theorem readSlots_holds {texts : List (String × String)} (name : String)
    (hnames : ((body access o texts).map Part.name).Nodup)
    (h : content.Holds (body access o texts)) :
    ∃ slots, readSlots name (texts.map Prod.fst) content = .ok slots ∧
      readAccess slots = .ok access ∧ readOutcome slots = .ok o ∧
      ∀ i key s, texts[i]? = some (key, s) →
        slots.required (i + 2) key Node.readText = .ok s := by
  have htexts : List.Forall₂ Part.Suits (texts.map fun t => .of (t.1, some (.string t.2)))
      ((texts.map Prod.fst).map textField) := by
    rw [List.map_map, List.forall₂_map_left_iff, List.forall₂_map_right_iff, List.forall₂_same]
    exact fun t _ => suits_text t.1 t.2
  obtain ⟨slots, hslots, hfilled⟩ := Json.readVariant_holds ("Reply::" ++ name)
    (.cons (suits_text "access_id" access)
      (.cons (Json.reads_written o.takePlain_json).suits htexts)) hnames h
  refine ⟨slots, hslots, Json.required_written hfilled rfl (Node.readText_string access),
    Json.required_written hfilled rfl o.takePlain_json, ?_⟩
  intro i key s hi
  refine @Json.required_written _ _ _ _ slots (i + 2) key key (.string s) hfilled ?_
    (Node.readText_string s)
  simp [hi]

theorem readPayload_holds {p : String} (name : String)
    (h : content.Holds (body access o [("payload", p)])) :
    readPayload name content = .ok (access, o, p) := by
  obtain ⟨slots, hslots, haccess, houtcome, htexts⟩ :=
    readSlots_holds name (by simp [body, Part.of]) h
  have hp := htexts 0 "payload" p rfl
  simp only [List.map_cons, List.map_nil] at hslots
  simp only [readPayload, hslots, haccess, houtcome, hp, bind, Except.bind, pure, Except.pure]

theorem readChanged_holds {i : UInt32} {s plus minus : String}
    (h : content.Holds ((changed access i s plus minus).rows.tail.map .of)) :
    ofContent content .changed = .ok (.changed access i s plus minus) := by
  have hsuits : List.Forall₂ Part.Suits ((changed access i s plus minus).rows.tail.map .of)
      [textField "access_id", .of "sequence" Node.readUInt32, textField "subscription_id",
        textField "added", textField "removed"] :=
    .cons (suits_text "access_id" access) <|
    .cons (Json.reads_written (Node.readUInt32_number i)).suits <|
    .cons (suits_text "subscription_id" s) <|
    .cons (suits_text "added" plus) <|
    .cons (suits_text "removed" minus) .nil
  have hnames : (((changed access i s plus minus).rows.tail.map Part.of).map Part.name).Nodup := by
    simp [rows, members, Part.of]
  obtain ⟨slots, hslots, hfilled⟩ :=
    Json.readVariant_holds "Reply::SubscriptionIndication" hsuits hnames h
  have haccess : readAccess slots = .ok access :=
    Json.required_written hfilled rfl (Node.readText_string access)
  have hi : slots.required 1 "sequence" Node.readUInt32 = .ok i :=
    Json.required_written hfilled rfl (Node.readUInt32_number i)
  have hs : slots.required 2 "subscription_id" Node.readText = .ok s :=
    Json.required_written hfilled rfl (Node.readText_string s)
  have hplus : slots.required 3 "added" Node.readText = .ok plus :=
    Json.required_written hfilled rfl (Node.readText_string plus)
  have hminus : slots.required 4 "removed" Node.readText = .ok minus :=
    Json.required_written hfilled rfl (Node.readText_string minus)
  simp only [ofContent, hslots, haccess, hi, hs, hplus, hminus, bind, Except.bind, pure, Except.pure]

/-- What stands beside the tag gives back the reply. -/
theorem ofContent_holds (h : content.Holds (r.rows.tail.map .of)) :
    ofContent content r.kind = .ok r := by
  cases r with
  | joined a o =>
    obtain ⟨slots, hslots, ha, ho, -⟩ :=
      @readSlots_holds content a o [] "JoinComplete" (by simp [body, Part.of]) h
    rw [List.map_nil] at hslots
    simp only [kind, ofContent, hslots, ha, ho, bind, Except.bind, pure, Except.pure]
  | inserted a o p =>
    have hread (name : String) := @readPayload_holds content a o p name h
    simp only [kind, ofContent, hread, bind, Except.bind, pure, Except.pure]
  | updated a o p =>
    have hread (name : String) := @readPayload_holds content a o p name h
    simp only [kind, ofContent, hread, bind, Except.bind, pure, Except.pure]
  | removed a o p =>
    have hread (name : String) := @readPayload_holds content a o p name h
    simp only [kind, ofContent, hread, bind, Except.bind, pure, Except.pure]
  | results a o p =>
    have hread (name : String) := @readPayload_holds content a o p name h
    simp only [kind, ofContent, hread, bind, Except.bind, pure, Except.pure]
  | subscribed a o s t =>
    obtain ⟨slots, hslots, ha, ho, htexts⟩ :=
      @readSlots_holds content a o [("subscription_id", s), ("results", t)] "SubscribeResponse"
        (by simp [body, Part.of]) h
    have hs := htexts 0 "subscription_id" s rfl
    have ht := htexts 1 "results" t rfl
    simp only [List.map_cons, List.map_nil] at hslots
    simp only [kind, ofContent, hslots, ha, ho, hs, ht, bind, Except.bind, pure, Except.pure]
  | changed a i s plus minus => exact readChanged_holds h
  | unsubscribed a o s =>
    obtain ⟨slots, hslots, ha, ho, htexts⟩ :=
      @readSlots_holds content a o [("subscription_id", s)] "UnsubscribeComplete"
        (by simp [body, Part.of]) h
    have hs := htexts 0 "subscription_id" s rfl
    simp only [List.map_cons, List.map_nil] at hslots
    simp only [kind, ofContent, hslots, ha, ho, hs, bind, Except.bind, pure, Except.pure]

/-- The values of a reply's members hold no containers. -/
theorem flat_rows (r : Reply) : ∀ m ∈ r.rows, (m.2.getD .null).node.flaw depth = none := by
  cases r <;> simp [rows, members, head, Outcome.json, Json.node, Node.flaw]

/-- A reply is read from whatever presents it. -/
theorem ofNode_shows (h : r.Shows depth n) : ofNode depth n = .ok r := by
  obtain ⟨spelling, htag, hkind⟩ := r.rows_tagged
  obtain ⟨content, hsplit, hcontent⟩ :=
    @Json.splitTag_written _ _ "reply" "Reply" spelling tags _ _ _ htag hkind r.nodup_names
      r.flat_rows h
  simp only [ofNode, hsplit, ofContent_holds hcontent, bind, Except.bind]

theorem fit_rows (r : Reply) : r.rows.Fit := by
  have hnumber (i : UInt32) : i.toNat < Nat.pow 2 64 := Nat.lt_trans i.toNat_lt (by decide)
  cases r <;> simp [Json.Rows.Fit, rows, members, head, Outcome.json, Json.Fits, hnumber]

theorem independent : Json.Independent decode json positional (Shows 0) :=
  Json.independent_of_rows json_eq fit_rows fun _ _ h _ => ofNode_shows h

end Reply
end SpaceGateway
