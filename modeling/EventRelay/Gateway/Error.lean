import EventRelay.Text.Decimal

namespace EventRelay

/-- Why the gateway did not take a job. -/
inductive GatewayError
  | request (reason : String)
  | status (code : Nat) (body : String)
  deriving DecidableEq, Repr

def GatewayError.message : GatewayError → String
  | .request reason => "Gateway request failed: " ++ reason
  | .status code body => "Gateway returned " ++ Text.natText code ++ ": " ++ body

end EventRelay
