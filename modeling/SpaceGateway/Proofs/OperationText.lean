import SpaceGateway.Operation.Form
import SpaceGateway.Proofs.Records
/-!
Operations and callers' requests are read from every text that presents them. The tag of an operation
may stand anywhere among its members, and a request holds its operation one container further in.
-/
namespace SpaceGateway

open Json (Node Part)

theorem Encoding.takePlain_json (e : Encoding) : e.json.node.takePlain variants = .ok e := by
  cases e <;> rfl

theorem QueryLanguage.takePlain_json (l : QueryLanguage) :
    l.json.node.takePlain variants = .ok l := by
  cases l <;> rfl

namespace Operation

variable {o : Operation} {n : Node} {depth : Nat} {content : Json.Content} {name : String}

/-- The members of an operation with the values that are written for them, its tag first. -/
def rows (o : Operation) : Json.Rows := o.members.map fun m => (m.1, some m.2)

theorem json_eq (o : Operation) : o.json = o.rows.compact := by
  cases o <;> rfl

/-- An operation as the array of its tag and its other members. -/
def positional (o : Operation) : Json := o.rows.positional

/-- Whether a node inside `depth` containers presents an operation. Members of other names are taken
up whole, so they must be readable and not too deep. -/
def Shows (depth : Nat) (o : Operation) (n : Node) : Prop :=
  Json.Presents (o.rows.map .of) (Json.Within (depth + 1)) n

theorem rows_tagged (o : Operation) : ∃ tag, o.rows = ("op", some (.string tag)) :: o.rows.tail ∧
    tags.lookup tag = some o.transaction := by
  cases o <;> exact ⟨_, rfl, rfl⟩

theorem nodup_names (o : Operation) : ((o.rows.map Part.of).map Part.name).Nodup := by
  cases o <;> simp [rows, members, Part.of]

theorem suits_encoding (e : Encoding) : (Part.of ("encoding", some e.json)).Suits encodingField :=
  (Json.reads_written e.takePlain_json).suits

theorem suits_language (l : QueryLanguage) :
    (Part.of ("query_type", some l.json)).Suits languageField :=
  (Json.reads_written l.takePlain_json).suits

theorem suits_text (key s : String) : (Part.of (key, some (.string s))).Suits (textField key) :=
  (Json.reads_written (Node.readText_string s)).suits

theorem readTriples_holds {e : Encoding} {s : String}
    (h : content.Holds ([("encoding", some e.json), ("triples", some (.string s))].map .of)) :
    readTriples name content = .ok (e, s) := by
  obtain ⟨slots, hslots, hfilled⟩ := Json.readVariant_holds name
    (.cons (suits_encoding e) (.cons (suits_text "triples" s) .nil)) (by simp [Part.of]) h
  have he : slots.required 0 "encoding" (Node.takePlain Encoding.variants) = .ok e :=
    Json.required_written hfilled rfl e.takePlain_json
  have hs : slots.required 1 "triples" Node.readText = .ok s :=
    Json.required_written hfilled rfl (Node.readText_string s)
  simp only [readTriples, hslots, he, hs, bind, Except.bind, pure, Except.pure]

theorem readQuery_holds {l : QueryLanguage} {s : String}
    (h : content.Holds ([("query_type", some l.json), ("query", some (.string s))].map .of)) :
    readQuery name content = .ok (l, s) := by
  obtain ⟨slots, hslots, hfilled⟩ := Json.readVariant_holds name
    (.cons (suits_language l) (.cons (suits_text "query" s) .nil)) (by simp [Part.of]) h
  have hl : slots.required 0 "query_type" (Node.takePlain QueryLanguage.variants) = .ok l :=
    Json.required_written hfilled rfl l.takePlain_json
  have hs : slots.required 1 "query" Node.readText = .ok s :=
    Json.required_written hfilled rfl (Node.readText_string s)
  simp only [readQuery, hslots, hl, hs, bind, Except.bind, pure, Except.pure]

/-- What stands beside the tag gives back the operation. -/
theorem ofContent_holds (h : content.Holds (o.rows.tail.map .of)) :
    ofContent content o.transaction = .ok o := by
  cases o with
  | join =>
    have hempty := Json.readEmpty_holds h
    simp only [transaction, ofContent, hempty, bind, Except.bind, pure, Except.pure]
  | leave =>
    have hempty := Json.readEmpty_holds h
    simp only [transaction, ofContent, hempty, bind, Except.bind, pure, Except.pure]
  | insert e s =>
    have hread (name : String) := @readTriples_holds content name e s h
    simp only [transaction, ofContent, hread, bind, Except.bind, pure, Except.pure]
  | remove e s =>
    have hread (name : String) := @readTriples_holds content name e s h
    simp only [transaction, ofContent, hread, bind, Except.bind, pure, Except.pure]
  | query l s =>
    have hread (name : String) := @readQuery_holds content name l s h
    simp only [transaction, ofContent, hread, bind, Except.bind, pure, Except.pure]
  | subscribe l s =>
    have hread (name : String) := @readQuery_holds content name l s h
    simp only [transaction, ofContent, hread, bind, Except.bind, pure, Except.pure]
  | update e s t =>
    obtain ⟨slots, hslots, hfilled⟩ := Json.readVariant_holds "Operation::Update"
      (.cons (suits_encoding e) (.cons (suits_text "insert" s) (.cons (suits_text "remove" t) .nil)))
      (by simp [Part.of]) h
    have he : slots.required 0 "encoding" (Node.takePlain Encoding.variants) = .ok e :=
      Json.required_written hfilled rfl e.takePlain_json
    have hs : slots.required 1 "insert" Node.readText = .ok s :=
      Json.required_written hfilled rfl (Node.readText_string s)
    have ht : slots.required 2 "remove" Node.readText = .ok t :=
      Json.required_written hfilled rfl (Node.readText_string t)
    simp only [transaction, ofContent, hslots, he, hs, ht, bind, Except.bind, pure, Except.pure]
  | unsubscribe s =>
    obtain ⟨slots, hslots, hfilled⟩ := Json.readVariant_holds "Operation::Unsubscribe"
      (.cons (suits_text "subscription_id" s) .nil) (by simp) h
    have hs : slots.required 0 "subscription_id" Node.readText = .ok s :=
      Json.required_written hfilled rfl (Node.readText_string s)
    simp only [transaction, ofContent, hslots, hs, bind, Except.bind, pure, Except.pure]

/-- The values of an operation's members hold no containers. -/
theorem flat_rows (o : Operation) : ∀ m ∈ o.rows, (m.2.getD .null).node.flaw depth = none := by
  cases o <;> simp [rows, members, Encoding.json, QueryLanguage.json, Json.node, Node.flaw]

/-- An operation is read from whatever presents it. -/
theorem ofNode_shows (h : o.Shows depth n) : ofNode depth n = .ok o := by
  obtain ⟨spelling, htag, hkind⟩ := o.rows_tagged
  obtain ⟨content, hsplit, hcontent⟩ :=
    @Json.splitTag_written _ _ "op" "Operation" spelling tags _ _ _ htag hkind o.nodup_names
      o.flat_rows h
  simp only [ofNode, hsplit, ofContent_holds hcontent, bind, Except.bind]

theorem fit_rows (o : Operation) : o.rows.Fit := by
  cases o <;> simp [Json.Rows.Fit, rows, members, Encoding.json, QueryLanguage.json, Json.Fits]

theorem fits_json (o : Operation) : Json.Fits o.json := by
  rw [json_eq]
  exact o.fit_rows.compact

theorem shows_json (o : Operation) : o.Shows depth o.json.node := by
  rw [json_eq]
  exact Json.presents_compact

theorem independent : Json.Independent decode json positional (Shows 0) :=
  Json.independent_of_rows json_eq fit_rows fun _ _ h _ => ofNode_shows h

end Operation

namespace CallerRequest

variable {r : CallerRequest} {n : Node}

/-- The members of a request. The operation may be presented in its own ways. -/
def parts (r : CallerRequest) : List Part :=
  [.of ("server_id", some (.string r.server)), .of ("node_id", some (.string r.node)),
    .of ("access_id", some (.string r.access)),
    .of ("transaction_id", some (.number r.transactionId.toNat)),
    ⟨"operation", r.operation.Shows 1, False⟩]

/-- A request as the array of all its members, the operation as an array as well. -/
def positional (r : CallerRequest) : Json :=
  .array [.string r.server, .string r.node, .string r.access, .number r.transactionId.toNat,
    r.operation.positional]

/-- Whether a node presents a request. Members of other names are not looked at. -/
def Shows (r : CallerRequest) (n : Node) : Prop := Json.Presents r.parts (fun _ => True) n

theorem nodup_names (r : CallerRequest) : (r.parts.map Part.name).Nodup := by
  have h : (fields.map (·.name)).Nodup := by decide
  exact h

/-- A request is read from whatever presents it. -/
theorem ofNode_shows (h : r.Shows n) (hskip : n.blocked = none) : ofNode n = .ok r := by
  have hoperation : Part.Reads ⟨"operation", r.operation.Shows 1, False⟩ (Operation.ofNode 1)
      r.operation := fun _ => Operation.ofNode_shows
  have hsuits : List.Forall₂ Part.Suits r.parts fields :=
    .cons (Json.reads_written (Node.readText_string _)).suits <|
    .cons (Json.reads_written (Node.readText_string _)).suits <|
    .cons (Json.reads_written (Node.readText_string _)).suits <|
    .cons (Json.reads_written (Node.readUInt32_number _)).suits <|
    .cons hoperation.suits .nil
  obtain ⟨slots, hslots, hfilled⟩ :=
    Json.readRecord_presents "InboundRequest" hsuits r.nodup_names h hskip
  have h0 : slots.required 0 "server_id" Node.readText = .ok r.server :=
    Json.required_written hfilled rfl (Node.readText_string _)
  have h1 : slots.required 1 "node_id" Node.readText = .ok r.node :=
    Json.required_written hfilled rfl (Node.readText_string _)
  have h2 : slots.required 2 "access_id" Node.readText = .ok r.access :=
    Json.required_written hfilled rfl (Node.readText_string _)
  have h3 : slots.required 3 "transaction_id" Node.readUInt32 = .ok r.transactionId :=
    Json.required_written hfilled rfl (Node.readUInt32_number _)
  have h4 : slots.required 4 "operation" (Operation.ofNode 1) = .ok r.operation :=
    Json.required_filled hfilled rfl not_false hoperation
  simp only [ofNode, hslots, h0, h1, h2, h3, h4, bind, Except.bind, pure, Except.pure]

theorem fits_json (r : CallerRequest) : Json.Fits r.json :=
  ⟨trivial, trivial, trivial, Nat.lt_trans r.transactionId.toNat_lt (by decide),
    r.operation.fits_json, trivial⟩

theorem fits_positional (r : CallerRequest) : Json.Fits r.positional :=
  ⟨trivial, trivial, trivial, Nat.lt_trans r.transactionId.toNat_lt (by decide),
    r.operation.fit_rows.positional, trivial⟩

theorem shows_json (r : CallerRequest) : r.Shows r.json.node := by
  have hshown : Json.Shown r.parts [("server_id", (Json.string r.server).node),
      ("node_id", (Json.string r.node).node), ("access_id", (Json.string r.access).node),
      ("transaction_id", (Json.number r.transactionId.toNat).node),
      ("operation", r.operation.json.node)] :=
    .give rfl <| .give rfl <| .give rfl <| .give rfl <| .give r.operation.shows_json .nil
  exact Json.presents_shown hshown

theorem shows_positional (r : CallerRequest) : r.Shows r.positional.node := by
  have hnodes : List.Forall₂ Part.Shows r.parts [(Json.string r.server).node,
      (Json.string r.node).node, (Json.string r.access).node,
      (Json.number r.transactionId.toNat).node, r.operation.positional.node] :=
    .cons rfl <| .cons rfl <| .cons rfl <| .cons rfl <| .cons Json.presents_positional .nil
  exact .array hnodes

theorem independent : Json.Independent decode json positional Shows :=
  Json.independent_of_read (fun _ _ => ofNode_shows) (fun r => ⟨r.fits_json, r.shows_json⟩)
    fun r => ⟨r.fits_positional, r.shows_positional⟩

end CallerRequest
end SpaceGateway
