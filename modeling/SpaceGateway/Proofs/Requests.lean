import SpaceGateway.Codec.Framed
import SpaceGateway.Proofs.OperationText
import SpaceGateway.Proofs.Utf8
/-!
Requests as servers get them. Whoever takes the tags off a request and reads the rest as JSON finds in
it what was asked for, whatever the strings in it are, the tags among them.
-/
namespace SpaceGateway

open Json (Node Members)

section Values
variable {members : List (String × Json)} {nodes : List (String × Node)} {depth : Nat}

/-- A value of any kind, read whole. -/
def Json.Node.readWhole (n : Node) : Json.Result Node :=
  match n.flaw 0 with
  | none => .ok n
  | some f => .error (.text f)

theorem Json.fitMembers_iff : Json.FitMembers members ↔ ∀ m ∈ members, Json.Fits m.2 := by
  induction members with
  | nil => simp [Json.FitMembers]
  | cons m members ih => simp [Json.FitMembers, ih]

theorem Json.flaw_ofList : (Members.ofList nodes).flaw depth = none ↔
    ∀ m ∈ nodes, m.2.flaw depth = none := by
  induction nodes with
  | nil => simp [Members.ofList, Members.flaw]
  | cons m nodes ih => simp [Members.ofList, Members.flaw, ih]

theorem Json.ofList_injective : Function.Injective Members.ofList := by
  intro a b h
  induction a generalizing b with
  | nil =>
    cases b with
    | nil => rfl
    | cons m b => cases h
  | cons m a ih =>
    cases b with
    | nil => cases h
    | cons m' b =>
      simp only [Members.ofList, Members.member.injEq, Except.ok.injEq] at h
      rw [Prod.ext h.1 h.2.1, ih h.2.2]

end Values

/-- The members of an object that says just what a request does. -/
structure Request.SaidBy (r : Request) (members : List (String × Node)) : Prop where
  distinct : (members.map Prod.fst).Nodup
  space : ("space_id", .string (.ok r.space)) ∈ members
  node : ("node_id", .string (.ok r.node)) ∈ members
  transactionId : ("transaction_id", .number (.ok (.natural r.transactionId.toNat))) ∈ members
  operation : ∃ n, ("operation", n) ∈ members ∧ ∀ depth, Operation.ofNode depth n = .ok r.operation

/-- Whether a text is that of an object that says what a request does. -/
def Request.SaidIn (r : Request) (text : Bytes) : Prop :=
  ∃ members, Json.decode Node.readWhole text = .ok (.object (.ofList members)) ∧ r.SaidBy members

section Said
variable {r r' : Request} {members : List (String × Node)} {text : Bytes}

theorem Request.SaidBy.unique (h : r.SaidBy members) (h' : r'.SaidBy members) : r = r' := by
  have hsame {name : String} {n n' : Node} (hn : (name, n) ∈ members) (hn' : (name, n') ∈ members) :
      n = n' := congrArg Prod.snd (List.inj_on_of_nodup_map h.distinct hn hn' rfl)
  obtain ⟨n, hn, hread⟩ := h.operation
  obtain ⟨n', hn', hread'⟩ := h'.operation
  have hspace := hsame h.space h'.space
  have hnode := hsame h.node h'.node
  have htransaction := hsame h.transactionId h'.transactionId
  have hoperation := hread 0
  rw [hsame hn hn', hread' 0] at hoperation
  simp only [Node.string.injEq, Except.ok.injEq] at hspace hnode hoperation
  simp only [Node.number.injEq, Except.ok.injEq, Json.Number.natural.injEq, UInt32.toNat_inj]
    at htransaction
  cases r
  cases r'
  simp_all

theorem Request.SaidIn.unique (h : r.SaidIn text) (h' : r'.SaidIn text) : r = r' := by
  obtain ⟨members, hread, hsaid⟩ := h
  obtain ⟨members', hread', hsaid'⟩ := h'
  rw [hread, Except.ok.injEq, Node.object.injEq] at hread'
  rw [← Json.ofList_injective hread'] at hsaid'
  exact hsaid.unique hsaid'

end Said

namespace Framed

section Tags
variable {tag b inner : Bytes}

theorem stripFront_append (h : tag ≠ []) : stripFront tag (tag ++ b) = stripFront tag b := by
  rw [stripFront, dif_pos ⟨h, List.isPrefixOf_iff_prefix.2 (List.prefix_append tag b)⟩,
    List.drop_left]

theorem stripFront_stop (h : ¬ tag <+: b) : stripFront tag b = b := by
  rw [stripFront, dif_neg]
  rintro ⟨-, hp⟩
  exact h (List.isPrefixOf_iff_prefix.1 hp)

/-- The tags are all that is taken off a frame, unless there are more of them at the ends of what is
in it. -/
theorem unframe_frame (hstart : ¬ startTag <+: inner ++ endTag)
    (hend : ¬ endTag.reverse <+: inner.reverse) : unframe (frame inner) = inner := by
  have hfront : (frame inner).dropWhile Bytes.isBlank = frame inner := rfl
  have hback : (frame inner).reverse = endTag.reverse ++ (startTag ++ inner).reverse :=
    List.reverse_append
  have hblank : (frame inner).reverse.dropWhile Bytes.isBlank = (frame inner).reverse := by
    rw [hback]
    rfl
  have hstarts : stripFront startTag (frame inner) = inner ++ endTag := by
    rw [frame, List.append_assoc, stripFront_append (by decide), stripFront_stop hstart]
  have hends : (inner ++ endTag).reverse = endTag.reverse ++ inner.reverse := List.reverse_append
  rw [unframe, hfront, hblank, List.reverse_reverse, hstarts, stripBack, hends,
    stripFront_append (by decide), stripFront_stop hend, List.reverse_reverse]

/-- An object has a brace at either end, and tags have none. -/
theorem unframe_object (members : List (String × Json)) :
    unframe (frame (Json.object members).render) = (Json.object members).render := by
  rw [Json.render]
  apply unframe_frame
  · rintro ⟨t, ht⟩
    exact absurd (List.cons.inj ht).1 (by decide)
  · rw [List.reverse_cons, List.reverse_append]
    rintro ⟨t, ht⟩
    exact absurd (List.cons.inj ht).1 (by decide)

end Tags

section Body
variable {r : Request} {depth : Nat}

theorem perm_byKey (members : List (String × Json)) : (byKey members).Perm members :=
  List.mergeSort_perm ..

/-- An operation is read from its members in any order. -/
theorem ofNode_byKey (o : Operation) (depth : Nat) :
    Operation.ofNode depth (Json.object (byKey o.members)).node = .ok o := by
  have hshown := Json.shown_compact o.rows
  have hmembers : o.rows.filterMap (fun m => m.2.map (m.1, ·)) = o.members := by
    simp [Operation.rows, List.filterMap_map]
  rw [hmembers] at hshown
  apply Operation.ofNode_shows
  rw [Json.node, Json.memberNodes_eq]
  refine @Json.Presents.object _ _ _ [] _ hshown (by simp) ?_
  rw [List.append_nil]
  exact (perm_byKey o.members).map _

/-- The members of a request. -/
def members (r : Request) : List (String × Json) :=
  [("space_id", .string r.space), ("node_id", .string r.node),
    ("transaction_id", .number r.transactionId.toNat),
    ("operation", .object (byKey r.operation.members))]

theorem saidBy_members (r : Request) :
    r.SaidBy ((byKey (members r)).map fun m => (m.1, m.2.node)) := by
  have hmem {m : String × Json} (h : m ∈ members r) :
      (m.1, m.2.node) ∈ (byKey (members r)).map fun m => (m.1, m.2.node) :=
    List.mem_map_of_mem ((perm_byKey _).mem_iff.2 h)
  refine ⟨?_, ?_, ?_, ?_, ?_⟩
  · rw [List.map_map]
    refine (((perm_byKey (members r)).map _).nodup_iff).2 ?_
    simp [members]
  · exact hmem (m := ("space_id", .string r.space)) (by simp [members])
  · exact hmem (m := ("node_id", .string r.node)) (by simp [members])
  · exact hmem (m := ("transaction_id", .number r.transactionId.toNat)) (by simp [members])
  · exact ⟨_, hmem (m := ("operation", .object (byKey r.operation.members))) (by simp [members]),
      ofNode_byKey r.operation⟩

theorem fits_operation (o : Operation) : Json.Fits (.object (byKey o.members)) := by
  have hmembers : Json.FitMembers o.members := o.fits_json
  refine Json.fitMembers_iff.2 fun m hm => ?_
  exact Json.fitMembers_iff.1 hmembers m ((perm_byKey _).mem_iff.1 hm)

theorem fits_members (r : Request) : Json.Fits (.object (byKey (members r))) := by
  refine Json.fitMembers_iff.2 fun m hm => ?_
  have hmembers : Json.FitMembers (members r) :=
    ⟨trivial, trivial, Nat.lt_trans r.transactionId.toNat_lt (by decide),
      fits_operation r.operation, trivial⟩
  exact Json.fitMembers_iff.1 hmembers m ((perm_byKey _).mem_iff.1 hm)

theorem flaw_operation (o : Operation) (h : depth < Json.maxDepth) :
    (Json.object (byKey o.members)).node.flaw depth = none := by
  rw [Json.node, Json.memberNodes_eq, Node.flaw, if_pos h, Json.flaw_ofList, List.forall_mem_map]
  intro m hm
  have hrow : (m.1, some m.2) ∈ o.rows := List.mem_map_of_mem ((perm_byKey _).mem_iff.1 hm)
  exact o.flat_rows _ hrow

theorem flaw_members (r : Request) : (Json.object (byKey (members r))).node.flaw 0 = none := by
  rw [Json.node, Json.memberNodes_eq, Node.flaw, if_pos (by decide), Json.flaw_ofList,
    List.forall_mem_map]
  intro m hm
  have hm := (perm_byKey _).mem_iff.1 hm
  simp only [members, List.mem_cons, List.not_mem_nil, or_false] at hm
  obtain rfl | rfl | rfl | rfl := hm
  · rfl
  · rfl
  · rfl
  · exact flaw_operation r.operation (by decide)

theorem body_eq (r : Request) : body r = (Json.object (byKey (members r))).render := rfl

theorem saidIn_body (r : Request) : r.SaidIn (body r) := by
  refine ⟨_, ?_, saidBy_members r⟩
  rw [body_eq]
  refine Json.decode_render _ (fits_members r) ?_
  rw [Node.readWhole, flaw_members, Json.node, Json.memberNodes_eq]

theorem isText_frame {b : Bytes} (h : Json.IsText b) : Json.IsText (frame b) :=
  Json.isText_append (Json.isText_append ⟨_, rfl⟩ h) ⟨_, rfl⟩

end Body

/-- What becomes of a request on the wire. -/
structure Carries (r : Request) : Prop where
  /-- A request that names its node is built, as a text that says the same without the tags. -/
  built : r.node ≠ "" →
    ∃ b, codec.build r = .ok b ∧ (text? b).isSome ∧ r.SaidIn (unframe b)
  /-- No other request is built alike. -/
  alone : ∀ b r', codec.build r = .ok b → codec.build r' = .ok b → r' = r
  /-- Only a request that does not name its node is not built. -/
  unbuilt_iff : (∃ f, codec.build r = .error f) ↔ r.node = ""

theorem build_nameless {r : Request} (h : r.node = "") :
    codec.build r = .error (.unbuildable r.operation.transaction "empty node id") :=
  if_pos (String.isEmpty_iff.2 h)

theorem build_named {r : Request} (h : r.node ≠ "") : codec.build r = .ok (frame (body r)) :=
  if_neg fun he => h (String.isEmpty_iff.1 he)

theorem eq_frame_of_built {r : Request} {b : Bytes} (h : codec.build r = .ok b) :
    b = frame (body r) := by
  by_cases hnode : r.node = ""
  · rw [build_nameless hnode] at h
    cases h
  · rw [build_named hnode, Except.ok.injEq] at h
    exact h.symm

theorem saidIn_of_built {r : Request} {b : Bytes} (h : codec.build r = .ok b) :
    r.SaidIn (unframe b) := by
  rw [eq_frame_of_built h, body_eq, unframe_object, ← body_eq]
  exact saidIn_body r

/-- A request is found unaltered by whoever takes off the tags, and is built unless it does not name
its node. -/
theorem request_unaltered (r : Request) : Carries r := by
  refine ⟨?_, ?_, ?_⟩
  · intro hnode
    have hbuilt := build_named hnode
    refine ⟨_, hbuilt, ?_, saidIn_of_built hbuilt⟩
    obtain ⟨s, hs⟩ := isText_frame (Json.isText_render (.object (byKey (members r))))
    rw [body_eq, hs, text?_utf8]
    rfl
  · intro b r' hr hr'
    exact (saidIn_of_built hr').unique (saidIn_of_built hr)
  · constructor
    · rintro ⟨f, hf⟩
      by_contra hnode
      rw [build_named hnode] at hf
      cases hf
    · intro hnode
      exact ⟨_, build_nameless hnode⟩

/-- Strings that look like tags, and others that are written with escapes, come through. -/
theorem request_unaltered_with_tags :
    let r : Request := ⟨"</SSAP_message>", "\\\"<SSAP_message>", 7,
      .insert .rdfXml "\n</SSAP_message></SSAP_message>"⟩
    ∃ b, codec.build r = .ok b ∧ (text? b).isSome ∧ r.SaidIn (unframe b) :=
  (request_unaltered _).built (by decide)

end Framed
end SpaceGateway
