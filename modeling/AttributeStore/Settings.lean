import AttributeStore.Disk.Files
import AttributeStore.Failure
import AttributeStore.Toml.Quoted
import AttributeStore.Toml.Reader

/-! Settings of the connection to the registry: a file of TOML, and variables that stand over it. -/
namespace AttributeStore

structure Settings where
  apiUrl : String := "http://localhost:8000"
  apiKey : String := ""
  apiKeyId : String := ""
  orgId : String := ""
  timeoutSeconds : UInt64 := 30
  deriving DecidableEq

namespace Settings

def string? (entries : List (String × Toml.Value)) (name : String) : Except Toml.Fault (Option String) :=
  match entries.lookup name with
  | none => .ok none
  | some (.str s) => .ok (some s)
  | some _ => .error (.wrongType name)

/-- Settings from the entries of a file. The address must be there; entries of other names are passed over. -/
def ofEntries (entries : List (String × Toml.Value)) : Except Toml.Fault Settings := do
  let some apiUrl ← string? entries "api_url" | .error (.missingField "api_url")
  let apiKey ← string? entries "api_key"
  let apiKeyId ← string? entries "api_key_id"
  let orgId ← string? entries "org_id"
  let timeout ← match entries.lookup "timeout_secs" with
    | none => pure 30
    | some (.int n) => if n < 0 then .error (.wrongType "timeout_secs") else pure (UInt64.ofNat n.toNat)
    | some _ => .error (.wrongType "timeout_secs")
  return ⟨apiUrl, apiKey.getD "", apiKeyId.getD "", orgId.getD "", timeout⟩

def ofToml (s : String) : Except Toml.Fault Settings := do ofEntries (← Toml.parse s)

/-- The key is never written; it comes from a variable or the command line. -/
def toToml (s : Settings) : String :=
  s!"api_url = {Toml.quote s.apiUrl}\napi_key_id = {Toml.quote s.apiKeyId}\norg_id = {Toml.quote s.orgId}\n" ++
    s!"timeout_secs = {s.timeoutSeconds}\n"

/-- Variables that are set and not empty replace what the file says. -/
def withVariables (lookup : String → Option String) (s : Settings) : Settings :=
  let prefer (name value : String) : String := ((lookup name).filter (!·.isEmpty)).getD value
  { s with
    apiUrl := prefer "SIGNALS_API_URL" s.apiUrl
    apiKey := prefer "SIGNALS_API_KEY" s.apiKey
    apiKeyId := prefer "SIGNALS_API_KEY_ID" s.apiKeyId
    orgId := prefer "SIGNALS_ORG_ID" s.orgId }

/-- The address without slashes at its end. -/
def baseUrl (s : Settings) : String := String.ofList (Text.trimEnd (· == '/') s.apiUrl.toList)

/-- The file of settings below the directory of configurations. -/
def path (configurations : String) : String := Path.join (Path.join configurations "signals") "config.toml"

section

variable {m : Type → Type} [Monad m] [Files m]

/-- The settings of a file; without one, the defaults. -/
def load (path : String) : ExceptT Failure m Settings := do
  if ← (Files.isThere path : m Bool) then
    let text ← Failure.onFiles [.reading path] (Files.read path)
    Failure.given (attempt (.parsing path) .toml (ofToml text))
  else return {}

def save (path : String) (s : Settings) : ExceptT Failure m Unit := do
  Failure.onFiles [] (Files.makeDirectories (Path.parent path))
  Failure.onFiles [] (Files.write path s.toToml)

end

end Settings

end AttributeStore
