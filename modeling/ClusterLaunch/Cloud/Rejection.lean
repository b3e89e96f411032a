/-! # Requests without a reply

A service can turn a request down, with a code and a reason, or it cannot be reached at all.
-/

namespace ClusterLaunch

/-- A field of a reply. It may be left out or hold nothing. -/
inductive Field where
  | missing
  | null
  | given (s : String)
  deriving DecidableEq, Repr

def Field.textOr (other : String) : Field → String
  | missing => other
  | null => "None"
  | given s => s

/-- A request that a service turned down. -/
structure Rejection where
  operation : String
  code : Field := .missing
  reason : Field := .missing
  /-- The status of the response, 0 when there is none. -/
  status : Int := 0
  /-- How often the request was repeated, if this is known. -/
  retries : Option Int := none
  /-- Whether it was given up after the most repetitions allowed. -/
  gaveUp : Bool := false
  deriving DecidableEq, Repr

namespace Rejection

def hasCode (r : Rejection) (codes : List String) : Bool :=
  match r.code with
  | .given code => codes.contains code
  | _ => false

def message (r : Rejection) : String :=
  let repeated := match r.gaveUp, r.retries with
    | true, some n => " (reached max retries: " ++ toString n ++ ")"
    | _, _ => ""
  "An error occurred (" ++ r.code.textOr "Unknown" ++ ") when calling the " ++ r.operation ++
    " operation" ++ repeated ++ ": " ++ r.reason.textOr "Unknown"

end Rejection

/-- The usual reasons for which a service could not be asked at all. -/
inductive Disruption where
  | noCredentials
  | noRegion
  | unreachable (url : String)
  | connectTimeout (url : String)
  | readTimeout (url : String)
  | noProfile (profile : String)
  | partialCredentials (provider missing : String)
  deriving DecidableEq, Repr

def Disruption.message : Disruption → String
  | noCredentials => "Unable to locate credentials"
  | noRegion => "You must specify a region."
  | unreachable url => "Could not connect to the endpoint URL: \"" ++ url ++ "\""
  | connectTimeout url => "Connect timeout on endpoint URL: \"" ++ url ++ "\""
  | readTimeout url => "Read timeout on endpoint URL: \"" ++ url ++ "\""
  | noProfile profile => "The config profile (" ++ profile ++ ") could not be found"
  | partialCredentials provider missing =>
    "Partial credentials found in " ++ provider ++ ", missing: " ++ missing

end ClusterLaunch
