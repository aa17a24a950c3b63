import Chatflow.Schema.Field
import Chatflow.Text.Digits
import Chatflow.Text.Lower

/-! The settings of the service. -/

namespace Chatflow

open Chatflow.Schema

structure Settings where
  databaseUri : String := "mongodb://localhost:27017/funnelchat"
  databaseName : String := "funnelchat"
  maxPoolSize : Int := 10
  minPoolSize : Int := 1
  /-- Where sessions are kept: in the process, or in the document database. -/
  sessionBackend : String := "memory"
  seedPath : Option String := none
  channelToken : String := ""
  channelPhoneId : String := "000000000000"
  verifyToken : String := "funnelchat-verify"
  signingSecret : String := "funnelchat-app-secret"
  channelUrl : String := "https://graph.facebook.com/v18.0"
  templateLanguage : String := "es"
  geminiKey : Option String := none
  geminiModel : String := "models/gemini-1.5-flash"
  openaiKey : Option String := none
  openaiModel : String := "gpt-4o-mini"
  temperature : Float := 0.7
  maxTokens : Int := 500
  historyWindow : Int := 10
  maxSteps : Int := 50
  swapAttempts : Int := 3
  enforceDeviceScope : Bool := true
  defaultAgent : Option String := none
  zone : String := "America/Mexico_City"
  waitPollSeconds : Int := 30
  addressLockSeconds : Int := 30
  dedupeSeconds : Int := 3600
  adminPhone : Option String := none
  emailUrl : Option String := none
  emailKey : Option String := none
  emailFrom : String := "noreply@funnelchat.app"
  alertingUrl : Option String := none
  environment : String := "development"
  workers : Int := 4
  cacheUrl : String := "redis://localhost:6379"
  allowedOrigins : List String := ["http://localhost:3000"]
  apiVersion : String := "v1"
  peerRateLimit : Int := 100
  addressRateLimit : Int := 20
  apiKey : Option String := none
  logLevel : String := "INFO"
deriving Repr

namespace Settings

/-- Refuses a value for a reason, unless it passes a test. -/
def refuseUnless {α : Type} (test : α → Bool) (reason : String) (reader : Reader α) : Reader α := fun v =>
  (reader v).andThen fun a => if test a then .ok a else .problem (.refused reason)

def isDigits (s : String) : Bool :=
  let cs := s.toList
  let digits := if cs.getLast? == some '\n' then cs.dropLast else cs
  !digits.isEmpty && digits.all Text.isDecimal

/-- What some settings have to satisfy beyond being of the right type. -/
structure Rules where
  phoneId : Reader String
  backend : Reader String
  count : Reader Int

/-- The rules for settings from outside. -/
def Rules.checked : Rules where
  phoneId := refuseUnless isDigits "WHATSAPP_PHONE_ID must contain only digits" text
  backend := refuseUnless (["memory", "mongo"].contains ·) "SESSION_BACKEND must be 'memory' or 'mongo'" text
  count := refuseUnless (1 ≤ ·) "value must be at least 1" whole

/-- No rules but those of the types. -/
def Rules.unchecked : Rules := ⟨text, text, whole⟩

def origins : Reader (List String)
  | .str s => .ok (((Text.split ',' s).map Text.trim).filter (· != ""))
  | v => list text v

/-- Reads settings; those that are not given keep their values. -/
def read (rules : Rules) (base : Settings) (fields : Fields) : Check Settings :=
  let field {α : Type} (name : String) (old : α) (reader : Reader α) : Check α :=
    withDefault fields [name] old reader
  Settings.mk <$> field "mongo_uri" base.databaseUri text
    <*> field "mongo_db_name" base.databaseName text
    <*> field "max_pool_size" base.maxPoolSize whole
    <*> field "min_pool_size" base.minPoolSize whole
    <*> field "session_backend" base.sessionBackend rules.backend
    <*> field "flows_seed_path" base.seedPath (optional text)
    <*> field "whatsapp_access_token" base.channelToken text
    <*> field "whatsapp_phone_id" base.channelPhoneId rules.phoneId
    <*> field "whatsapp_verify_token" base.verifyToken text
    <*> field "whatsapp_app_secret" base.signingSecret text
    <*> field "graph_api_base_url" base.channelUrl text
    <*> field "template_language" base.templateLanguage text
    <*> field "gemini_api_key" base.geminiKey (optional text)
    <*> field "gemini_model" base.geminiModel text
    <*> field "openai_api_key" base.openaiKey (optional text)
    <*> field "openai_model" base.openaiModel text
    <*> field "ai_temperature" base.temperature number
    <*> field "ai_max_tokens" base.maxTokens whole
    <*> field "ai_history_window" base.historyWindow rules.count
    <*> field "max_steps_per_run" base.maxSteps rules.count
    <*> field "cas_retries" base.swapAttempts rules.count
    <*> field "enforce_device_scope" base.enforceDeviceScope flag
    <*> field "default_agent_id" base.defaultAgent (optional text)
    <*> field "timezone" base.zone text
    <*> field "wait_poll_seconds" base.waitPollSeconds whole
    <*> field "address_lock_seconds" base.addressLockSeconds whole
    <*> field "dedupe_ttl_seconds" base.dedupeSeconds whole
    <*> field "admin_alert_phone" base.adminPhone (optional text)
    <*> field "email_api_url" base.emailUrl (optional text)
    <*> field "email_api_key" base.emailKey (optional text)
    <*> field "email_from" base.emailFrom text
    <*> field "alerting_webhook_url" base.alertingUrl (optional text)
    <*> field "environment" base.environment text
    <*> field "workers" base.workers whole
    <*> field "redis_url" base.cacheUrl text
    <*> field "cors_allowed_origins" base.allowedOrigins origins
    <*> field "api_version" base.apiVersion text
    <*> field "rate_limit_per_minute" base.peerRateLimit whole
    <*> field "address_rate_limit_per_minute" base.addressRateLimit whole
    <*> field "api_key" base.apiKey (optional text)
    <*> field "log_level" base.logLevel text

def toFields (s : Settings) : Fields :=
  [("mongo_uri", .str s.databaseUri), ("mongo_db_name", .str s.databaseName),
    ("max_pool_size", .int s.maxPoolSize), ("min_pool_size", .int s.minPoolSize),
    ("session_backend", .str s.sessionBackend), ("flows_seed_path", .ofText? s.seedPath),
    ("whatsapp_access_token", .str s.channelToken), ("whatsapp_phone_id", .str s.channelPhoneId),
    ("whatsapp_verify_token", .str s.verifyToken), ("whatsapp_app_secret", .str s.signingSecret),
    ("graph_api_base_url", .str s.channelUrl), ("template_language", .str s.templateLanguage),
    ("gemini_api_key", .ofText? s.geminiKey), ("gemini_model", .str s.geminiModel),
    ("openai_api_key", .ofText? s.openaiKey), ("openai_model", .str s.openaiModel),
    ("ai_temperature", .float s.temperature), ("ai_max_tokens", .int s.maxTokens),
    ("ai_history_window", .int s.historyWindow), ("max_steps_per_run", .int s.maxSteps),
    ("cas_retries", .int s.swapAttempts), ("enforce_device_scope", .bool s.enforceDeviceScope),
    ("default_agent_id", .ofText? s.defaultAgent), ("timezone", .str s.zone),
    ("wait_poll_seconds", .int s.waitPollSeconds), ("address_lock_seconds", .int s.addressLockSeconds),
    ("dedupe_ttl_seconds", .int s.dedupeSeconds), ("admin_alert_phone", .ofText? s.adminPhone),
    ("email_api_url", .ofText? s.emailUrl), ("email_api_key", .ofText? s.emailKey),
    ("email_from", .str s.emailFrom), ("alerting_webhook_url", .ofText? s.alertingUrl),
    ("environment", .str s.environment), ("workers", .int s.workers), ("redis_url", .str s.cacheUrl),
    ("cors_allowed_origins", .list (s.allowedOrigins.map .str)), ("api_version", .str s.apiVersion),
    ("rate_limit_per_minute", .int s.peerRateLimit),
    ("address_rate_limit_per_minute", .int s.addressRateLimit), ("api_key", .ofText? s.apiKey),
    ("log_level", .str s.logLevel)]

def names : List String := ({} : Settings).toFields.map (·.1)

def checkNames (fields : Fields) : Check Unit :=
  let unknown := fields.filter fun field => !names.contains field.1
  if unknown.isEmpty then .ok () else .failed (unknown.map fun field => ⟨[.field field.1], .extraField⟩)

/-- Whether all names of fields can be looked at. -/
def haveNames (fields : Fields) : Bool := fields.all fun field => !Text.holdsHalf field.1

/-- The name of a setting in the letters in which it is usually written. -/
def usualName (name : String) : String :=
  let small := Text.lower name
  if names.contains small then small else name

/-- Reads settings from outside, where their names may be written in small or capital letters. -/
def ofFields (fields : Fields) : Check Settings :=
  let fields := Fields.merge [] (fields.map fun (name, v) => (usualName name, v))
  if haveNames fields then (fun s _ => s) <$> read .checked {} fields <*> checkNames fields
  else .problem .notUnicode

/-- Why settings will not do where customers are served. -/
inductive Gap where
  /-- A setting that must not be empty. -/
  | required (name : String)
  | noProvider
deriving Repr, DecidableEq

def Gap.message : Gap → String
  | required name => name ++ " is required in production"
  | noProvider => "At least one AI API key must be provided"

/-- The first reason for which settings will not do in their environment. -/
def gap? (s : Settings) : Option Gap :=
  if s.environment = "production" then
    let required := [("MONGO_URI", s.databaseUri), ("WHATSAPP_ACCESS_TOKEN", s.channelToken),
      ("WHATSAPP_VERIFY_TOKEN", s.verifyToken), ("WHATSAPP_APP_SECRET", s.signingSecret)]
    match required.find? fun setting => setting.2 == "" with
    | some (name, _) => some (.required name)
    | none => if (s.geminiKey.getD "" == "") && (s.openaiKey.getD "" == "") then some .noProvider else none
  else none

/-- What is printed before the program ends because of a gap. -/
def Gap.notice (g : Gap) : String := "--- [ERROR] Environment validation failed: " ++ g.message ++ "\n"

end Settings

end Chatflow
