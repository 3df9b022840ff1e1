import SpaceGateway.Message.Form
import SpaceGateway.Proofs.Records
/-!
A message is read from every text that presents it, its own among them.
-/
namespace SpaceGateway

open Json (Node)

theorem Transaction.ofNode_json (t : Transaction) : ofNode t.json.node = .ok t := by
  cases t <;> rfl

theorem Role.ofNode_json (r : Role) : ofNode r.json.node = .ok r := by
  cases r <;> rfl

namespace Json.Node

theorem readOption_number (n : UInt32) :
    readOption readUInt32 (Json.number n.toNat).node = .ok (some n) := by
  have h := readUInt32_number n
  simp only [node] at h ⊢
  simp [readOption, h, Except.map]

theorem readOption_string (s : String) :
    readOption readText (Json.string s).node = .ok (some s) := rfl

theorem readOption_status (s : Status) :
    readOption Status.ofNode s.json.node = .ok (some s) := by
  cases s <;> rfl

end Json.Node

namespace Message

/-- The members of a message, each with the value that is written for it. -/
def rows (m : Message) : Json.Rows :=
  [("name", some m.transaction.json),
    ("type", some m.role.json),
    ("transaction_id", m.transactionId.map fun i => .number i.toNat),
    ("node_id", some (.string m.node)),
    ("space_id", some (.string m.space)),
    ("status", m.status.map Status.json),
    ("subscription_id", m.subscription.map .string),
    ("update_sequence", m.sequence.map fun i => .number i.toNat),
    ("payload", m.payload.map .string),
    ("results_added", m.added.map .string),
    ("results_removed", m.removed.map .string)]

theorem json_eq (m : Message) : m.json = m.rows.compact := rfl

/-- A message as the array of all its members. -/
def positional (m : Message) : Json := m.rows.positional

/-- Whether a node presents a message. Members of other names are not looked at. -/
def Shows (m : Message) (n : Node) : Prop := Json.Presents (m.rows.map .of) (fun _ => True) n

theorem nodup_names (m : Message) : ((m.rows.map Json.Part.of).map Json.Part.name).Nodup := by
  have h : (fields.map (·.name)).Nodup := by decide
  exact h

variable {m : Message} {n : Node} {slots : Json.Slots}

theorem suits_fields (m : Message) : List.Forall₂ Json.Part.Suits (m.rows.map .of) fields := by
  have htext (key : String) (a : Option String) :
      (Json.Part.of (key, a.map .string)).Reads (Node.readOption Node.readText) a :=
    Json.reads_optional Node.readOption_string
  have hnumber (key : String) (a : Option UInt32) :
      (Json.Part.of (key, a.map fun i => .number i.toNat)).Reads
        (Node.readOption Node.readUInt32) a :=
    Json.reads_optional Node.readOption_number
  have hstatus : (Json.Part.of ("status", m.status.map Status.json)).Reads
      (Node.readOption Status.ofNode) m.status :=
    Json.reads_optional Node.readOption_status
  exact
    .cons (Json.reads_written (Transaction.ofNode_json _)).suits <|
    .cons (Json.reads_written (Role.ofNode_json _)).suits <|
    .cons (hnumber _ _).suits <|
    .cons (Json.reads_written (Node.readText_string _)).suits <|
    .cons (Json.reads_written (Node.readText_string _)).suits <|
    .cons hstatus.suits <|
    .cons (htext _ _).suits <|
    .cons (hnumber _ _).suits <|
    .cons (htext _ _).suits <|
    .cons (htext _ _).suits <|
    .cons (htext _ _).suits .nil

/-- The slots that a message fills give it back. -/
theorem ofSlots_filled (hfilled : List.Forall₂ Json.Part.Filled (m.rows.map .of) slots) :
    ofSlots slots = .ok m := by
  have h0 : slots.required 0 "name" Transaction.ofNode = .ok m.transaction :=
    Json.required_written hfilled rfl (Transaction.ofNode_json _)
  have h1 : slots.required 1 "type" Role.ofNode = .ok m.role :=
    Json.required_written hfilled rfl (Role.ofNode_json _)
  have h2 : slots.getOr 2 none (Node.readOption Node.readUInt32) = .ok m.transactionId :=
    Json.getOr_optional hfilled rfl Node.readOption_number
  have h3 : slots.required 3 "node_id" Node.readText = .ok m.node :=
    Json.required_written hfilled rfl (Node.readText_string _)
  have h4 : slots.required 4 "space_id" Node.readText = .ok m.space :=
    Json.required_written hfilled rfl (Node.readText_string _)
  have h5 : slots.getOr 5 none (Node.readOption Status.ofNode) = .ok m.status :=
    Json.getOr_optional hfilled rfl Node.readOption_status
  have h6 : slots.getOr 6 none (Node.readOption Node.readText) = .ok m.subscription :=
    Json.getOr_optional hfilled rfl Node.readOption_string
  have h7 : slots.getOr 7 none (Node.readOption Node.readUInt32) = .ok m.sequence :=
    Json.getOr_optional hfilled rfl Node.readOption_number
  have h8 : slots.getOr 8 none (Node.readOption Node.readText) = .ok m.payload :=
    Json.getOr_optional hfilled rfl Node.readOption_string
  have h9 : slots.getOr 9 none (Node.readOption Node.readText) = .ok m.added :=
    Json.getOr_optional hfilled rfl Node.readOption_string
  have h10 : slots.getOr 10 none (Node.readOption Node.readText) = .ok m.removed :=
    Json.getOr_optional hfilled rfl Node.readOption_string
  rw [ofSlots, h0, h1, h2, h3, h4, h5, h6, h7, h8, h9, h10]
  rfl

/-- A message is read from whatever presents it. -/
theorem ofNode_shows (h : m.Shows n) (hskip : n.blocked = none) : ofNode n = .ok m := by
  obtain ⟨slots, hslots, hfilled⟩ :=
    Json.readRecord_presents "Message" m.suits_fields m.nodup_names h hskip
  rw [ofNode, hslots]
  exact ofSlots_filled hfilled

theorem fit_rows (m : Message) : m.rows.Fit := by
  have htext (a : Option String) : Json.Fits ((a.map .string).getD .null) := by
    cases a <;> trivial
  have hnumber (a : Option UInt32) :
      Json.Fits ((a.map fun i => Json.number i.toNat).getD .null) := by
    cases a with
    | none => trivial
    | some i => exact Nat.lt_trans i.toNat_lt (by decide)
  have hstatus (a : Option Status) : Json.Fits ((a.map Status.json).getD .null) := by
    cases a with
    | none => trivial
    | some s => cases s <;> simp [Status.json, Json.Fits, Json.FitMembers]
  simp only [Json.Rows.Fit, rows, List.forall_mem_cons]
  exact ⟨trivial, trivial, hnumber _, trivial, trivial, hstatus _, htext _, hnumber _, htext _,
    htext _, htext _, by simp⟩

theorem independent : Json.Independent decode json positional Shows :=
  Json.independent_of_rows json_eq fit_rows fun _ _ => ofNode_shows

/-- A message is read from its own text. -/
theorem decode_render (m : Message) : decode m.render = .ok m := independent.compact m

end Message
end SpaceGateway
