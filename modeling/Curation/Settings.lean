import Curation.Decode.Scalar
import Curation.Json.Reader

/-!
Settings of the service: addresses and keys of the remote services, time limits, and how many
checks run at once. They come from named texts of the environment, whose case does not count; the
lists and tables among them are JSON text.
-/
namespace Curation

structure Settings where
  appName : String
  appVersion : String
  debug : Bool
  logLevel : String
  databaseUrl : String
  testDatabaseUrl : Option String
  useTestDatabase : Bool
  sqlDebug : Bool
  redisUrl : Option String
  neynarApiKey : String
  neynarBaseUrl : String
  warpcastToken : String
  warpcastBaseUrl : String
  openrankApiKey : String
  openrankBaseUrl : String
  airstackApiKey : String
  airstackUrl : String
  botornotUrl : String
  icebreakerUrl : String
  simplehashApiKey : String
  simplehashUrl : String
  rpcUrls : List (String × String)
  httpTimeoutSeconds : Binary64
  checkTimeoutSeconds : Binary64
  evaluationTimeoutSeconds : Binary64
  evaluationMaxConcurrency : Int
  executeOnProtocol : Bool
  castDedupTtlSeconds : Int
  corsOrigins : List String
  corsAllowCredentials : Bool
  corsAllowMethods : List String
  corsAllowHeaders : List String
  deriving Repr, Inhabited

namespace Settings
open Decode

def knownChains : List (String × String) :=
  [("1", "https://eth.llamarpc.com"), ("10", "https://mainnet.optimism.io"),
    ("137", "https://polygon-rpc.com"), ("8453", "https://mainnet.base.org"),
    ("42161", "https://arb1.arbitrum.io/rpc"), ("7777777", "https://rpc.zora.energy")]

def seconds (n : Nat) : Binary64 := Number.toReal (.whole n)

/-- Settings from values under their names; what is absent has its default. -/
def readMembers (members : Json.Members) : Checked Settings :=
  Settings.mk
    <$> optional ["APP_NAME"] "ModBot" text members
    <*> optional ["APP_VERSION"] "0.1.0" text members
    <*> optional ["DEBUG"] false flag members
    <*> optional ["LOG_LEVEL"] "INFO" text members
    <*> optional ["DATABASE_URL"] "sqlite:///./modbot.db" text members
    <*> optional ["TEST_DATABASE_URL"] none (nullable text) members
    <*> optional ["USE_TEST_DATABASE"] false flag members
    <*> optional ["SQL_DEBUG"] false flag members
    <*> optional ["REDIS_URL"] none (nullable text) members
    <*> optional ["NEYNAR_API_KEY"] "" text members
    <*> optional ["NEYNAR_BASE_URL"] "https://api.neynar.com" text members
    <*> optional ["WARPCAST_TOKEN"] "" text members
    <*> optional ["WARPCAST_BASE_URL"] "https://api.warpcast.com" text members
    <*> optional ["OPENRANK_API_KEY"] "" text members
    <*> optional ["OPENRANK_BASE_URL"] "https://graph.cast.k3l.io" text members
    <*> optional ["AIRSTACK_API_KEY"] "" text members
    <*> optional ["AIRSTACK_URL"] "https://api.airstack.xyz/gql" text members
    <*> optional ["BOTORNOT_URL"] "https://cast-action-bot-or-not.vercel.app" text members
    <*> optional ["ICEBREAKER_URL"] "https://app.icebreaker.xyz/api/v1" text members
    <*> optional ["SIMPLEHASH_API_KEY"] "" text members
    <*> optional ["SIMPLEHASH_URL"] "https://api.simplehash.com/api/v0" text members
    <*> optional ["RPC_URLS"] knownChains (table text) members
    <*> optional ["HTTP_TIMEOUT_SECONDS"] (seconds 10) real members
    <*> optional ["CHECK_TIMEOUT_SECONDS"] (seconds 5) real members
    <*> optional ["EVALUATION_TIMEOUT_SECONDS"] (seconds 30) real members
    <*> optional ["EVALUATION_MAX_CONCURRENCY"] 8 whole members
    <*> optional ["EXECUTE_ON_PROTOCOL"] true flag members
    <*> optional ["CAST_DEDUP_TTL_SECONDS"] 86400 whole members
    <*> optional ["CORS_ORIGINS"] ["*"] (list text) members
    <*> optional ["CORS_ALLOW_CREDENTIALS"] true flag members
    <*> optional ["CORS_ALLOW_METHODS"] ["GET", "POST", "PUT", "DELETE", "OPTIONS"] (list text)
      members
    <*> optional ["CORS_ALLOW_HEADERS"] ["*"] (list text) members

/-- The settings whose texts are JSON. -/
def structured : List String :=
  ["RPC_URLS", "CORS_ORIGINS", "CORS_ALLOW_METHODS", "CORS_ALLOW_HEADERS"]

/-- Why an environment gives no settings. -/
inductive SettingsFault where
  | notJson (name : String)
  | invalid (issues : List Issue)
  deriving Repr

/-- The value that a text of the environment stands for; a JSON null counts as absent. -/
def valueOf? (name text : String) : Except SettingsFault (Option (String × Json)) :=
  if structured.contains name then
    match Json.read text with
    | .error _ => .error (.notJson name)
    | .ok .null => .ok none
    | .ok value => .ok (some (name, value))
  else .ok (some (name, .str text))

/-- Settings from the environment. -/
def ofEnvironment (texts : List (String × String)) : Except SettingsFault Settings := do
  let named := texts.map fun pair =>
    (String.ofList ((Text.lower pair.1).toList.map Char.toUpper), Json.str pair.2)
  let values ← (Json.Members.ofPairs named).mapM fun pair => valueOf? pair.1 pair.2.textOrEmpty
  match readMembers (values.filterMap id) with
  | .ok settings => .ok settings
  | .bad issues => .error (.invalid issues)

/-- The database in use: the one for tests if it is asked for and named. -/
def effectiveDatabaseUrl (settings : Settings) : String :=
  match settings.useTestDatabase, settings.testDatabaseUrl with
  | true, some url => if url.isEmpty then settings.databaseUrl else url
  | _, _ => settings.databaseUrl

/-- The same database for tools without asynchronous drivers. -/
def synchronousDatabaseUrl (settings : Settings) : String :=
  let url := settings.effectiveDatabaseUrl.toList
  let asynchronous := "postgresql+asyncpg".toList
  if asynchronous.isPrefixOf url then
    "postgresql+psycopg" ++ String.ofList (url.drop asynchronous.length)
  else settings.effectiveDatabaseUrl

def toJson (settings : Settings) : Json :=
  let texts (items : List String) : Json := .arr (items.map .str)
  .obj [("app_name", .str settings.appName), ("app_version", .str settings.appVersion),
    ("debug", .bool settings.debug), ("log_level", .str settings.logLevel),
    ("database_url", .str settings.databaseUrl),
    ("test_database_url", .ofText? settings.testDatabaseUrl),
    ("use_testing_database", .bool settings.useTestDatabase),
    ("sql_debug", .bool settings.sqlDebug), ("redis_url", .ofText? settings.redisUrl),
    ("neynar_api_key", .str settings.neynarApiKey),
    ("neynar_base_url", .str settings.neynarBaseUrl),
    ("warpcast_token", .str settings.warpcastToken),
    ("warpcast_base_url", .str settings.warpcastBaseUrl),
    ("openrank_api_key", .str settings.openrankApiKey),
    ("openrank_base_url", .str settings.openrankBaseUrl),
    ("airstack_api_key", .str settings.airstackApiKey),
    ("airstack_url", .str settings.airstackUrl), ("botornot_url", .str settings.botornotUrl),
    ("icebreaker_url", .str settings.icebreakerUrl),
    ("simplehash_api_key", .str settings.simplehashApiKey),
    ("simplehash_url", .str settings.simplehashUrl),
    ("rpc_urls", .obj (settings.rpcUrls.map fun pair => (pair.1, .str pair.2))),
    ("http_timeout_seconds", .number (.real settings.httpTimeoutSeconds)),
    ("check_timeout_seconds", .number (.real settings.checkTimeoutSeconds)),
    ("evaluation_timeout_seconds", .number (.real settings.evaluationTimeoutSeconds)),
    ("evaluation_max_concurrency", .int settings.evaluationMaxConcurrency),
    ("execute_on_protocol", .bool settings.executeOnProtocol),
    ("cast_dedup_ttl_seconds", .int settings.castDedupTtlSeconds),
    ("cors_origins", texts settings.corsOrigins),
    ("cors_allow_credentials", .bool settings.corsAllowCredentials),
    ("cors_allow_methods", texts settings.corsAllowMethods),
    ("cors_allow_headers", texts settings.corsAllowHeaders)]

end Settings

end Curation
