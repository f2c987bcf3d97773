import Nslab.Library.Document

/-! Domain errors with stable machine-readable codes. -/

namespace Nslab

structure NslabError where
  code : String
  message : String
  details : List (String × Document) := []
deriving DecidableEq

def operationCancelled : NslabError := ⟨"OPERATION_CANCELLED", "operation cancelled", []⟩

/-- `repr` of a text: printable ASCII between quotes, everything else escaped or as it is. -/
def quoted (text : String) : String :=
  let quote := if '\'' ∈ text.toList ∧ '"' ∉ text.toList then '"' else '\''
  let escape := fun char : Char =>
    if char = '\\' ∨ char = quote then ['\\', char]
    else if char = '\n' then ['\\', 'n']
    else if char = '\r' then ['\\', 'r']
    else if char = '\t' then ['\\', 't']
    else if char.toNat < 32 ∨ char.toNat = 127 then ['\\', 'x'] ++ (Text.toBase 16 2 char.toNat).map Nat.digitChar
    else [char]
  String.ofList (quote :: text.toList.flatMap escape ++ [quote])

end Nslab
