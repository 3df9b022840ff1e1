/-!
Identities of nodes, servers and subscriptions. Peers may spell them in either ASCII case, so two
spellings name the same thing when they agree once ASCII letters are lowered. Letters outside
ASCII keep their case.
-/
namespace SpaceGateway.Identity

/-- A spelling with its ASCII capitals lowered. -/
def fold (s : String) : List Char := s.toList.map Char.toLower

/-- Whether two spellings name the same thing. -/
def same (a b : String) : Bool := fold a == fold b

variable {a b c : String}

theorem same_iff : same a b ↔ fold a = fold b := by simp [same]

@[simp] theorem same_refl : same a a := by simp [same]

theorem same_symm (h : same a b) : same b a := same_iff.2 (same_iff.1 h).symm

theorem same_trans (h : same a b) (h' : same b c) : same a c :=
  same_iff.2 ((same_iff.1 h).trans (same_iff.1 h'))

end SpaceGateway.Identity
