import Nslab.Library.Digest

/-! The names of the kernel resources of a deployment. Each ends in a digest of
what it identifies. -/

namespace Nslab

/-- A run of hexadecimal digits that identifies `text`. -/
def identityDigest (size : Nat) (text : String) : String := Digest.hexdigest (Digest.blake2s size (Digest.utf8 text))

def namespaceName (deployment node : String) : String :=
  "nslab-" ++ deployment ++ "-" ++ node ++ "-" ++ identityDigest 8 (deployment ++ ":" ++ node)

def temporaryVethNames (deployment : String) (linkIndex : Nat) : String × String :=
  let digest := identityDigest 5 (deployment ++ ":" ++ toString linkIndex)
  ("nl" ++ digest ++ "a", "nl" ++ digest ++ "b")

theorem length_identityDigest (size : Nat) (text : String) : (identityDigest size text).toList.length = 2 * size := by
  simp [identityDigest, Digest.length_hexdigest]

/-- Within a deployment the namespace tells its node: what follows the node has a fixed length. -/
theorem namespaceName_injective {deployment left right : String}
    (same : namespaceName deployment left = namespaceName deployment right) : left = right := by
  have chars := congrArg String.toList same
  simp only [namespaceName, String.toList_append, List.append_assoc, List.append_cancel_left_eq] at chars
  have ends : ("-".toList ++ (identityDigest 8 (deployment ++ (":" ++ left))).toList).length =
      ("-".toList ++ (identityDigest 8 (deployment ++ (":" ++ right))).toList).length := by
    simp [length_identityDigest]
  have fronts : left.toList.length = right.toList.length := by
    have lengths := congrArg List.length chars
    simp only [List.length_append, length_identityDigest] at lengths
    omega
  exact String.toList_inj.mp (List.append_inj chars fronts).1

end Nslab
