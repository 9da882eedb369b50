import ShopClient.Disk
import ShopClient.Session.Settings
import ShopClient.Toml.Document

/-!
# Configuration

Where the shop is, how long to wait for it, and where the credentials are kept. Each value comes from
the configuration file, or has a default; the address may be overridden from the environment. What
comes out is checked (`check`): the address has to be one of the web, both times have to be positive,
and a renewal has to give up before the request that waits for it.

* `load`: the configuration in a file;
* `loadOrDefault`: the same, but the file may be missing where it is not named by the user.
-/

namespace ShopClient

/-- The configuration of a client. Times are in seconds. -/
structure Config where
  baseUrl : String := ({} : Settings).baseUrl
  requestTimeout : UInt64 := 10
  renewalTimeout : UInt64 := 5
  /-- The file that the credentials are kept in. -/
  storagePath : String := "credentials.json"
  deriving DecidableEq

/-- What is wrong with a configuration. -/
inductive Config.Violation
  /-- The address is not one of the web. -/
  | baseUrl (url : String)
  | requestTimeout
  | renewalTimeout
  /-- A renewal may take as long as a request. -/
  | renewalNotShorter (renewal request : UInt64)
  deriving DecidableEq

/-- What a violation says. -/
def Config.Violation.reason : Config.Violation → String
  | baseUrl url => "base_url must start with http:// or https://, got: " ++ url
  | requestTimeout => "timeout_secs must be greater than 0"
  | renewalTimeout => "refresh_timeout_secs must be greater than 0"
  | renewalNotShorter renewal request =>
    "refresh_timeout_secs (" ++ toString renewal.toNat ++ ") must be less than timeout_secs (" ++
      toString request.toNat ++ ")"

/-- Why there is no configuration. -/
inductive ConfigError
  | invalid (reason : String)
  | io (e : IoError)
  /-- The file is no document of the expected form. -/
  | malformed
  deriving DecidableEq

/-- The text of an error. -/
def ConfigError.message : ConfigError → String
  | invalid reason => "Configuration error: " ++ reason
  | io e => "I/O error: " ++ e.message
  | malformed => "TOML parse error: the file does not describe a configuration"

namespace Config

/-- The configuration as a session takes it. -/
def settings (c : Config) : Settings where
  baseUrl := c.baseUrl
  requestTimeout := c.requestTimeout.toNat * 1000
  renewalTimeout := c.renewalTimeout.toNat * 1000

/-! ### Sources -/

/-- The configuration of a document. What it does not give has its default, and what it gives
    besides is passed over. -/
def ofDocument? (document : Toml.Entries) : Option Config := do
  let d : Config := {}
  let nothing : Toml.Value := .table .header []
  let api := (document.lookup "api").getD nothing
  let storage := (document.lookup "storage").getD nothing
  return {
    baseUrl := ← api.field? "base_url" 0 Toml.Value.string? d.baseUrl
    requestTimeout := ← api.field? "timeout_secs" 1 Toml.Value.uint64? d.requestTimeout
    renewalTimeout := ← api.field? "refresh_timeout_secs" 2 Toml.Value.uint64? d.renewalTimeout
    storagePath := ← storage.field? "path" 0 Toml.Value.string? d.storagePath }

/-- The variable that overrides the address. -/
def baseUrlVariable : String := "STOREFRONT_API_BASE_URL"

/-- The configuration with the address `url`, if it is given and not blank. -/
def withBaseUrl (url : Option String) (c : Config) : Config :=
  match (url.map Text.trim).filter (· ≠ "") with
  | some url => { c with baseUrl := url }
  | none => c

/-! ### Checks -/

/-- Whether an address is one of the web, as far as its front tells. -/
def isWebAddress (url : String) : Bool :=
  "http://".toList.isPrefixOf url.toList || "https://".toList.isPrefixOf url.toList

/-- Fails with the first rule that the configuration violates. -/
def check (c : Config) : Except Violation Unit :=
  if !isWebAddress c.baseUrl then .error (.baseUrl c.baseUrl)
  else if c.requestTimeout = 0 then .error .requestTimeout
  else if c.renewalTimeout = 0 then .error .renewalTimeout
  else if c.requestTimeout ≤ c.renewalTimeout then
    .error (.renewalNotShorter c.renewalTimeout c.requestTimeout)
  else .ok ()

/-- The configuration with the address from the environment, if it passes the checks. -/
def finish (override : Option String) (c : Config) : Except ConfigError Config :=
  let c := c.withBaseUrl override
  match c.check with
  | .ok () => .ok c
  | .error v => .error (.invalid v.reason)

/-! ### Files -/

/-- The file that the configuration is in unless another one is named. -/
def defaultPath : String := "storefront.toml"

/-- The file to read: the one that is named, or the usual one. -/
def resolvePath (named : Option String) : String := named.getD defaultPath

/-- Whether a path names the usual file, with nothing before it and no more than slashes and dots
    after it. -/
def isDefaultPath (path : String) : Bool :=
  match (path.toList.splitOn '/').map String.ofList with
  | name :: rest => name = defaultPath && rest.all fun n => n = "" || n = "."
  | [] => false

/-- The configuration in a file. -/
def load (path : String) (override : Option String) (disk : Disk) : Except ConfigError Config := do
  let text ← (disk.readText (.ofString path)).mapError ConfigError.io
  match (Toml.parse? text).bind ofDocument? with
  | some c => c.finish override
  | none => throw .malformed

/-- The configuration in a file, or the default one where the usual file is missing. -/
def loadOrDefault (path : String) (override : Option String) (disk : Disk) :
    Except ConfigError Config :=
  if isDefaultPath path && !disk.contains (.ofString path) then finish override {}
  else load path override disk

end Config

end ShopClient
