import SpaceGateway.Proofs.ConfigText
import SpaceGateway.Proofs.MessageText
import SpaceGateway.Proofs.OperationText
import SpaceGateway.Proofs.ReplyText
import SpaceGateway.Proofs.Utf8
/-!
What is exchanged as JSON survives the exchange: every value is decoded from its own text, and from
every other text that presents it.
-/
namespace SpaceGateway

open Json (Node)

/-- Every value is decoded from the text that is written for it. Settings are returned checked: the
text of valid settings gives these settings, and no text gives others. -/
theorem decoded_from_own_text :
    (∀ m : Message, Message.decode (utf8 m.json.toText) = .ok m) ∧
    (∀ o : Operation, Operation.decode (utf8 o.json.toText) = .ok o) ∧
    (∀ r : CallerRequest, CallerRequest.decode (utf8 r.json.toText) = .ok r) ∧
    (∀ r : Reply, Reply.decode (utf8 r.json.toText) = .ok r) ∧
    (∀ c : Config, Config.decode (utf8 c.json.toText) = .ok c) ∧
    (∀ c : Config, c.validate = .ok () → Config.ofText (utf8 c.json.toText) = .ok c) ∧
    ∀ (s : Bytes) (c : Config), Config.ofText s = .ok c → c.validate = .ok () := by
  simp only [Json.utf8_toText]
  exact ⟨Message.independent.compact, Operation.independent.compact,
    CallerRequest.independent.compact, Reply.independent.compact, Config.decode_render,
    fun _ => Config.ofText_render, fun _ _ => Config.valid_of_ofText⟩

/-- Settings with one server are valid, and come back. -/
theorem decoded_from_own_text_of_one_server :
    let c : Config := { workers := 4, servers := [⟨"X", "TestServer", ⟨"127.0.0.1", 10010⟩⟩] }
    c.validate = .ok () ∧ Config.ofText (utf8 c.json.toText) = .ok c := by
  intro c
  have hvalid : c.validate = .ok () := by decide
  obtain ⟨-, -, -, -, -, hread, -⟩ := decoded_from_own_text
  exact ⟨hvalid, hread c hvalid⟩

/-- Every value is decoded from each text that presents it. -/
theorem decoded_from_every_text :
    Json.Independent Message.decode Message.json Message.positional Message.Shows ∧
    Json.Independent Operation.decode Operation.json Operation.positional (Operation.Shows 0) ∧
    Json.Independent CallerRequest.decode CallerRequest.json CallerRequest.positional
      CallerRequest.Shows ∧
    Json.Independent Reply.decode Reply.json Reply.positional (Reply.Shows 0) :=
  ⟨Message.independent, Operation.independent, CallerRequest.independent, Reply.independent⟩

/-- A request with all members in the opposite order and behind one of another name, and so those of
its operation. -/
theorem decoded_from_every_text_of_reversed_request :
    let operation : Json := .object [("hint", .object []), ("query", .string "q"),
      ("query_type", .string "sparql"), ("op", .string "query")]
    let request : Json := .object [("note", .array []), ("operation", operation),
      ("transaction_id", .number 7), ("access_id", .string "a"), ("node_id", .string "n"),
      ("server_id", .string "s")]
    CallerRequest.decode (32 :: (request.render ++ [10])) =
      .ok ⟨"s", "n", "a", 7, .query .sparql "q"⟩ := by
  intro operation request
  obtain ⟨-, -, hindependent, -⟩ := decoded_from_every_text
  have hoperation : Operation.Shows 1 (.query .sparql "q") operation.node := by
    have hshown : Json.Shown ((Operation.query .sparql "q").rows.map .of)
        [("op", .string (.ok "query")), ("query_type", .string (.ok "sparql")),
          ("query", .string (.ok "q"))] :=
      .give rfl <| .give rfl <| .give rfl .nil
    refine @Json.Presents.object _ _ _ [("hint", .object .close)] _ hshown ?_
      (List.reverse_perm _)
    simp only [List.forall_mem_singleton]
    exact ⟨by simp [Operation.rows, Operation.members, Json.Part.of], trivial, by decide⟩
  have hrequest : CallerRequest.Shows ⟨"s", "n", "a", 7, .query .sparql "q"⟩ request.node := by
    have hshown : Json.Shown (CallerRequest.parts ⟨"s", "n", "a", 7, .query .sparql "q"⟩)
        [("server_id", .string (.ok "s")), ("node_id", .string (.ok "n")),
          ("access_id", .string (.ok "a")), ("transaction_id", .number (.ok (.natural 7))),
          ("operation", operation.node)] :=
      .give rfl <| .give rfl <| .give rfl <| .give rfl <| .give hoperation .nil
    refine @Json.Presents.object _ _ _ [("note", .array .close)] _ hshown ?_
      (List.reverse_perm _)
    simp only [List.forall_mem_singleton]
    exact ⟨by simp [CallerRequest.parts, Json.Part.of], trivial⟩
  have hfits : Json.Fits request := by
    simp [request, operation, Json.Fits, Json.FitMembers, Json.FitAll]
  have hblank : Json.Blank [32] ∧ Json.Blank [10] := by simp [Json.Blank, Json.isSpace]
  exact hindependent.text _ request.node [32] request.render [10] hrequest
    (Json.spelt_render request hfits) hblank.1 hblank.2

end SpaceGateway
