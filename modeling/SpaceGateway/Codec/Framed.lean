import SpaceGateway.Codec
import SpaceGateway.Message.Form
import SpaceGateway.Operation.Form
/-!
A wire format that sets each JSON body between two tags. Blanks may stand before the start tag, and
the first end tag ends the frame, wherever it stands. So a body must not hold the end tag.
-/
namespace SpaceGateway.Framed

def startTag : Bytes := utf8 "<SSAP_message>"
def endTag : Bytes := utf8 "</SSAP_message>"

def frame (body : Bytes) : Bytes := startTag ++ body ++ endTag

/-- The frame of a message. -/
def encode (m : Message) : Bytes := frame m.render

/-- Whether one string goes on where the other ends. -/
def agrees (a b : Bytes) : Bool := a.isPrefixOf b || b.isPrefixOf a

/-- Looks for a frame at the start of all the bytes that came; `describe` words a bad body. -/
def parse (describe : Json.Fault → String) (b : Bytes) : ParseOutcome :=
  let head := b.dropWhile Bytes.isBlank
  if agrees startTag head then
    match Bytes.find? endTag b with
    | none => .inProgress
    | some stop =>
      let start := b.length - head.length + startTag.length
      match Message.decode ((b.take stop).drop start) with
      | .ok m => .complete (stop + endTag.length) m
      | .error f => .fault (.malformed (describe f))
  else .fault (.malformed "missing start tag")

/-- A parser that keeps all the sections it was given. -/
def parser (describe : Json.Fault → String) : Parser :=
  fun sections => parse describe sections.flatten

/-- The members of an object, by key. -/
def byKey (members : List (String × Json)) : List (String × Json) :=
  members.mergeSort fun a b => a.1 ≤ b.1

/-- The body of a request, its members and those of its operation by key. -/
def body (r : Request) : Bytes :=
  (Json.object (byKey [("space_id", .string r.space), ("node_id", .string r.node),
    ("transaction_id", .number r.transactionId.toNat),
    ("operation", .object (byKey r.operation.members))])).render

/-- Frames what `body` makes of a request. A request must name its node. -/
def build (body : Request → Bytes) (r : Request) : Except CodecFault Bytes :=
  if r.node.isEmpty then .error (.unbuildable r.operation.transaction "empty node id")
  else .ok (frame (body r))

def codec : Codec := ⟨build body, parser Json.Fault.message⟩

/-- Takes a tag off the front, as often as it stands there. -/
def stripFront (tag : Bytes) (b : Bytes) : Bytes :=
  if _h : tag ≠ [] ∧ tag.isPrefixOf b then stripFront tag (b.drop tag.length) else b
termination_by b.length
decreasing_by
  have := (List.isPrefixOf_iff_prefix.1 _h.2).length_le
  have := List.length_pos_iff.2 _h.1
  simp; omega

/-- Takes a tag off the back, as often as it stands there. -/
def stripBack (tag : Bytes) (b : Bytes) : Bytes := (stripFront tag.reverse b.reverse).reverse

/-- The body of a frame, without the ASCII blanks around it. A request that was built begins and ends
with a tag, so there are none to take off it. -/
def unframe (b : Bytes) : Bytes :=
  let inner := ((b.dropWhile Bytes.isBlank).reverse.dropWhile Bytes.isBlank).reverse
  stripBack endTag (stripFront startTag inner)

end SpaceGateway.Framed
