/-!
# Modes

A group turns its candidates into values in one of three ways and hands the values on in one of two.
A settler may ask for another mode than its group's; the strategies that serve a mode are found by
it.
-/

namespace Settlement

/-- How a value is made for a candidate. -/
inductive ProductionMode where
  /-- A new instance from the settler's factory, or the shared instance of a singleton. -/
  | construct
  /-- Whatever the colony's produce callback returns. -/
  | callback
  /-- The candidate's identity, without an instance. -/
  | identity
deriving DecidableEq

/-- How a produced value reaches the colony. -/
inductive AcceptanceMode where
  /-- The colony's accept callback receives it. -/
  | callback
  /-- It is dropped: the production was wanted for its effects only. -/
  | forget
deriving DecidableEq

/-- The word for a production mode in messages and in data. -/
def ProductionMode.word : ProductionMode → String
  | .construct => "construct"
  | .callback => "callback"
  | .identity => "identity"

/-- The constructor-like name of a production mode in outlines. -/
def ProductionMode.title : ProductionMode → String
  | .construct => "Construct"
  | .callback => "Callback"
  | .identity => "Identity"

/-- The word for an acceptance mode in messages and in data. -/
def AcceptanceMode.word : AcceptanceMode → String
  | .callback => "callback"
  | .forget => "forget"

/-- The constructor-like name of an acceptance mode in outlines. -/
def AcceptanceMode.title : AcceptanceMode → String
  | .callback => "Callback"
  | .forget => "Forget"

end Settlement
