import CompletionStream.Fault

/-!
# Failures of the provider — how they reach the caller

A failure that the provider's client raises is wrapped in a transport fault, which names it,
keeps its status and remembers it as the cause. Every other failure passes unchanged.
-/

namespace CompletionStream.Wire

/-- A fault wrapped in a transport fault. -/
def wrapped (fault : Fault) : Fault :=
  .of (.transport (fault.status?.getD .null) (some ⟨fault.name, fault.status?, fault.text⟩))
    (fault.name ++ ": " ++ fault.message)

/-- A failure of a stream as the caller sees it. -/
def relayed (fault : Fault) : Fault :=
  if fault.kind.isVendor then wrapped fault else fault

end CompletionStream.Wire
