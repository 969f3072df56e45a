import TableGraph.Backoff

/-!
# Configuration

How a client reaches its endpoint: the address, the longest wait for each step, the headers sent
with every request, and when requests are repeated.

* A configuration is given, or installed as the default, or read from the environment;
* the environment has to name the address; the secret and the role are optional.
-/

namespace TableGraph

/-- How a client reaches its endpoint. -/
structure Config where
  url : String
  timeout : Duration
  headers : OrderedMap String
  retry : RetryPolicy
  deriving Repr, Inhabited

/-- Variables of the environment. -/
abbrev Environment := OrderedMap String

namespace Config

/-- The variable that holds the address. -/
def urlVariable : String := "HASURA_URL"

/-- The variable that holds the secret. -/
def adminSecretVariable : String := "HASURA_ADMIN_SECRET"

/-- The variable that holds the role. -/
def roleVariable : String := "HASURA_ROLE"

/-- The header that holds the secret. -/
def adminSecretHeader : String := "X-Hasura-Admin-Secret"

/-- The header that holds the role. -/
def roleHeader : String := "X-Hasura-Role"

/-- A configuration for an address: half a minute for each step and the standard backoff. -/
def ofUrl (url : String) : Config := ⟨url, .ofSeconds 30, [], .backoff .standard⟩

/-- A header for every request; a known one keeps its place. -/
def withHeader (c : Config) (name value : String) : Config :=
  { c with headers := OrderedMap.insert name value c.headers }

/-- The secret of an administrator. -/
def withAdminSecret (c : Config) (secret : String) : Config := c.withHeader adminSecretHeader secret

/-- The role in which requests are made. -/
def withRole (c : Config) (role : String) : Config := c.withHeader roleHeader role

/-- Reads the environment. -/
def ofEnvironment (env : Environment) : Except ClientError Config :=
  match env.lookup urlVariable with
  | none => .error (.of .invalidUrl (urlVariable ++ " is not set"))
  | some url =>
    if url = "" then .error (.of .invalidUrl (urlVariable ++ " is not set"))
    else
      let c := ofUrl url
      let c := match env.lookup adminSecretVariable with
        | some secret => c.withAdminSecret secret
        | none => c
      .ok (match env.lookup roleVariable with
        | some role => c.withRole role
        | none => c)

/-- The installed configuration, or that of the environment if there is none. -/
def default (installed : Option Config) (env : Environment) : Except ClientError Config :=
  match installed with
  | some c => .ok c
  | none => ofEnvironment env

end Config

end TableGraph
