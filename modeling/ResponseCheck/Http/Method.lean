/-! The methods of requests. Some of them write, and only these have a body. -/

namespace ResponseCheck.Http

/-- The methods of requests. -/
inductive Method where
  | get | post | put | patch | delete | head | options
deriving DecidableEq, Repr

namespace Method

/-- Every method. -/
def all : List Method := [.get, .post, .put, .patch, .delete, .head, .options]

/-- The name of a method. -/
def name : Method → String
  | .get => "GET"
  | .post => "POST"
  | .put => "PUT"
  | .patch => "PATCH"
  | .delete => "DELETE"
  | .head => "HEAD"
  | .options => "OPTIONS"

/-- The method with a name. -/
def ofName? (name : String) : Option Method := all.find? (·.name == name)

/-- Only requests that write carry a body. -/
def sendsBody : Method → Bool
  | .post | .put | .patch => true
  | _ => false

end Method

end ResponseCheck.Http
