/-!
# Why the service gives no answer

The ways in which a request can fail, and `ServiceError.message`, which puts them into words.
-/

namespace PhraseFilter

inductive ServiceError
  | request (reason : String)
  | timeout
  | unavailable
  | rateLimited
  | api (status : Nat) (text : String)
  | parse (reason : String)
  deriving Repr, DecidableEq

def ServiceError.message : ServiceError → String
  | .request reason => "HTTP request failed: " ++ reason
  | .timeout => "Request timed out"
  | .unavailable => "OpenDota is unavailable"
  | .rateLimited => "Rate limited by OpenDota, try again in a minute"
  | .api status text => "API error (" ++ toString status ++ "): " ++ text
  | .parse reason => "Parse error: " ++ reason

end PhraseFilter
