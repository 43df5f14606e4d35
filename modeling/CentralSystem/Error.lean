namespace CentralSystem

inductive Error where
  | format (text : String)
  | unsupportedFeature (action : String)
  | validation (field reason : String)
  | notConnected (station : String)
  | notFound (entity id : String)
  | database (text : String)
deriving DecidableEq, Inhabited, Repr

namespace Error

def message : Error → String
  | format text => "Malformed frame: " ++ text
  | unsupportedFeature action => "Unsupported action: " ++ action
  | validation field reason => "Invalid field '" ++ field ++ "': " ++ reason
  | notConnected station => "Charge point " ++ station ++ " is not connected"
  | notFound entity id => entity ++ " not found: " ++ id
  | database text => "Database error: " ++ text

def code : Error → String
  | format _ => "FormationViolation"
  | unsupportedFeature _ => "NotImplemented"
  | validation .. => "PropertyConstraintViolation"
  | notConnected _ | notFound .. | database _ => "InternalError"

end Error

end CentralSystem
