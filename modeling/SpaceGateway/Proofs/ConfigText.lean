import SpaceGateway.Config
import SpaceGateway.Proofs.Records
/-!
Settings are read back from the text they are written as, the servers among them.
-/
namespace SpaceGateway

open Json (Node Part)

namespace Json.Node

theorem readUInt16_number (n : UInt16) : readUInt16 (Json.number n.toNat).node = .ok n := by
  have hn : n.toNat < Nat.pow 2 16 := n.toNat_lt
  simp [readUInt16, node, readNat, hn, Except.map]

theorem readUInt64_number (n : UInt64) : readUInt64 (Json.number n.toNat).node = .ok n := by
  have hn : n.toNat < Nat.pow 2 64 := n.toNat_lt
  simp [readUInt64, node, readNat, hn, Except.map]

theorem readBool_bool (b : Bool) : readBool (Json.bool b).node = .ok b := rfl

theorem readList_array {α : Type} {read : Node → Json.Result α} {f : α → Json} (items : List α)
    (h : ∀ a, read (f a).node = .ok a) :
    readList read (Json.array (items.map f)).node = .ok items := by
  rw [node, nodes_eq, readList]
  induction items with
  | nil => rfl
  | cons a items ih =>
    rw [List.map_cons, List.map_cons, Items.ofList, Items.readAll, ih, h a]
    rfl

end Json.Node

namespace Address

def rows (a : Address) : Json.Rows :=
  [("host", some (.string a.host)), ("port", some (.number a.port.toNat))]

theorem json_eq (a : Address) : a.json = a.rows.compact := rfl

theorem fit_rows (a : Address) : a.rows.Fit := by
  have hport : a.port.toNat < Nat.pow 2 64 := Nat.lt_trans a.port.toNat_lt (by decide)
  simp [Json.Rows.Fit, rows, Json.Fits, hport]

theorem ofNode_json (a : Address) : ofNode a.json.node = .ok a := by
  have hsuits : List.Forall₂ Part.Suits (a.rows.map .of) fields :=
    .cons (Json.reads_written (Node.readText_string _)).suits <|
    .cons (Json.reads_written (Node.readUInt16_number _)).suits .nil
  obtain ⟨slots, hslots, hfilled⟩ :=
    Json.readRecord_compact "ServerAddress" hsuits (by simp [rows, Part.of]) a.fit_rows
  have h0 : slots.required 0 "host" Node.readText = .ok a.host :=
    Json.required_written hfilled rfl (Node.readText_string _)
  have h1 : slots.required 1 "port" Node.readUInt16 = .ok a.port :=
    Json.required_written hfilled rfl (Node.readUInt16_number _)
  rw [json_eq]
  simp only [ofNode, hslots, h0, h1, bind, Except.bind, pure, Except.pure]

end Address

namespace ServerInfo

def rows (i : ServerInfo) : Json.Rows :=
  [("identity", some (.string i.identity)), ("name", some (.string i.name)),
    ("address", some i.address.json)]

theorem json_eq (i : ServerInfo) : i.json = i.rows.compact := rfl

theorem fit_rows (i : ServerInfo) : i.rows.Fit := by
  have haddress : Json.Fits i.address.json := by
    rw [Address.json_eq]
    exact i.address.fit_rows.compact
  simp [Json.Rows.Fit, rows, Json.Fits, haddress]

theorem ofNode_json (i : ServerInfo) : ofNode i.json.node = .ok i := by
  have hsuits : List.Forall₂ Part.Suits (i.rows.map .of) fields :=
    .cons (Json.reads_written (Node.readText_string _)).suits <|
    .cons (Json.reads_written (Node.readText_string _)).suits.orDefault <|
    .cons (Json.reads_written i.address.ofNode_json).suits .nil
  obtain ⟨slots, hslots, hfilled⟩ :=
    Json.readRecord_compact "ServerInfo" hsuits (by simp [rows, Part.of]) i.fit_rows
  have h0 : slots.required 0 "identity" Node.readText = .ok i.identity :=
    Json.required_written hfilled rfl (Node.readText_string _)
  have h1 : slots.getOr 1 "" Node.readText = .ok i.name :=
    Json.getOr_written hfilled rfl (Node.readText_string _)
  have h2 : slots.required 2 "address" Address.ofNode = .ok i.address :=
    Json.required_written hfilled rfl i.address.ofNode_json
  rw [json_eq]
  simp only [ofNode, hslots, h0, h1, h2, bind, Except.bind, pure, Except.pure]

end ServerInfo

namespace Config

variable {c : Config} {s : Bytes}

def rows (c : Config) : Json.Rows :=
  [("workers", some (.number c.workers.toNat)),
    ("receive_buffer_size", some (.number c.receiveBuffer.toNat)),
    ("tcp_nodelay", some (.bool c.noDelay)),
    ("servers", some (.array (c.servers.map ServerInfo.json)))]

theorem json_eq (c : Config) : c.json = c.rows.compact := rfl

theorem fitAll_servers (servers : List ServerInfo) :
    Json.FitAll (servers.map ServerInfo.json) := by
  induction servers with
  | nil => trivial
  | cons i servers ih => exact ⟨i.fit_rows.compact, ih⟩

theorem fit_rows (c : Config) : c.rows.Fit := by
  have hnumber (n : UInt64) : n.toNat < Nat.pow 2 64 := n.toNat_lt
  simp [Json.Rows.Fit, rows, Json.Fits, hnumber, fitAll_servers]

theorem ofNode_json (c : Config) : ofNode c.json.node = .ok c := by
  have hservers : (Json.array (c.servers.map ServerInfo.json)).node.readList ServerInfo.ofNode =
      .ok c.servers := Node.readList_array c.servers ServerInfo.ofNode_json
  have hsuits : List.Forall₂ Part.Suits (c.rows.map .of) fields :=
    .cons (Json.reads_written (Node.readUInt64_number _)).suits.orDefault <|
    .cons (Json.reads_written (Node.readUInt64_number _)).suits.orDefault <|
    .cons (Json.reads_written (Node.readBool_bool _)).suits.orDefault <|
    .cons (Json.reads_written hservers).suits.orDefault .nil
  obtain ⟨slots, hslots, hfilled⟩ :=
    Json.readRecord_compact "GatewayConfig" hsuits (by simp [rows, Part.of]) c.fit_rows
  have h0 : slots.getOr 0 10 Node.readUInt64 = .ok c.workers :=
    Json.getOr_written hfilled rfl (Node.readUInt64_number _)
  have h1 : slots.getOr 1 8192 Node.readUInt64 = .ok c.receiveBuffer :=
    Json.getOr_written hfilled rfl (Node.readUInt64_number _)
  have h2 : slots.getOr 2 true Node.readBool = .ok c.noDelay :=
    Json.getOr_written hfilled rfl (Node.readBool_bool _)
  have h3 : slots.getOr 3 [] (Node.readList ServerInfo.ofNode) = .ok c.servers :=
    Json.getOr_written hfilled rfl hservers
  rw [json_eq]
  simp only [ofNode, hslots, h0, h1, h2, h3, bind, Except.bind, pure, Except.pure]

/-- Settings are read from their own text. -/
theorem decode_render (c : Config) : decode c.json.render = .ok c :=
  Json.decode_render _ c.fit_rows.compact c.ofNode_json

theorem checked_eq_ok {d : Config} : c.checked = .ok d ↔ c = d ∧ c.validate = .ok () := by
  cases h : c.validate with
  | ok u => simp [checked, h]
  | error f => simp [checked, h]

theorem ofText_render (h : c.validate = .ok ()) : ofText c.json.render = .ok c := by
  rw [ofText, decode_render]
  exact checked_eq_ok.2 ⟨rfl, h⟩

/-- No settings are returned unchecked. -/
theorem valid_of_ofText (h : ofText s = .ok c) : c.validate = .ok () := by
  cases hd : decode s with
  | error f =>
    rw [ofText, hd] at h
    cases h
  | ok d =>
    rw [ofText, hd] at h
    obtain ⟨rfl, hvalid⟩ := checked_eq_ok.1 h
    exact hvalid

end Config
end SpaceGateway
