import ManufacturingMas.Py.Lines
import ManufacturingMas.Py.Repr

/-! The settings of the process, and the file that fills in its environment variables. -/

namespace ManufacturingMas.Config
open Py

/-- `os.environ`. -/
abbrev Environ := List (String × String)

/-- `v.strip() == ""`. -/
def isBlank (v : String) : Bool := (strip v.toList).isEmpty

/-- `os.environ[key] = val`, which refuses a null character. -/
def setVariable (environ : Environ) (key val : String) : Except PyErr Environ :=
  if Char.ofNat 0 ∈ key.toList ∨ Char.ofNat 0 ∈ val.toList then .error .valueError
  else .ok (Assoc.set environ key val)

/-- The variable and the value that a line of the file gives, if it gives any. -/
def assignment (line : List Char) : Option (String × String) :=
  let line := strip line
  if line.isEmpty || line.head? = some '#' then none
  else if !line.contains '=' then none
  else
    let key := strip (line.takeWhile (· ≠ '='))
    let val := (line.dropWhile (· ≠ '=')).drop 1
    let val := stripBy (· = singleQuote) (stripBy (· = doubleQuote) (strip val))
    if key.isEmpty then none else some (String.ofList key,String.ofList val)

def loadLine (environ : Environ) (line : List Char) : Except PyErr Environ :=
  match assignment line with
  | none => .ok environ
  | some (key,val) =>
    if (Assoc.get environ key).all isBlank then setVariable environ key val else .ok environ

/-- The text without its byte order mark. -/
def withoutMark : List Char → List Char
  | c :: cs => if c = Char.ofNat 0xfeff then cs else c :: cs
  | [] => []

def fileLines (text : List Char) : List (List Char) := splitLines false [] (withoutMark text)

/-- `_load_dotenv` of a file that is there, with its text. -/
def loadDotenv (environ : Environ) (text : List Char) : Except PyErr Environ :=
  (fileLines text).foldlM loadLine environ

/-- `_load_dotenv` of the file that was found, if one was. -/
def loadFile (environ : Environ) : Option (List Char) → Except PyErr Environ
  | none => .ok environ
  | some text => loadDotenv environ text

structure Settings where
  apiHost : String
  apiPort : ℤ
  taktSec : PyFloat
  llmModel : String
  llmDomainModel : String
  logLevel : String
  apiBearerToken : String
  corsOrigins : String
  llmRouterScope : String
  llmPerAgentAssist : Bool

/-- `x or y`. -/
def orText (x y : String) : String := if x = "" then y else x

def Settings.corsOriginList (s : Settings) : List String :=
  let raw := stripText s.corsOrigins
  if raw = "*" then ["*"]
  else ((raw.toList.splitOn ',').map (stripText ∘ String.ofList)).filter (· ≠ "")

section
variable (py : Interpreter) (environ : Environ)

def getText (key default : String) : String := (Assoc.get environ key).getD default

def getEnvInt (key : String) (default : ℤ) : ℤ :=
  match Assoc.get environ key with
  | none => default
  | some v =>
    if v = "" then default
    else match intOf py (.str v) with
      | .ok n => n
      | .error _ => default

def getEnvFloat (key : String) (default : PyFloat) : PyFloat :=
  match Assoc.get environ key with
  | none => default
  | some v =>
    if v = "" then default
    else match parseFloat v with
      | .ok x => x
      | .error _ => default

def getEnvBool (key : String) (default : Bool) : Bool :=
  match Assoc.get environ key with
  | none => default
  | some v =>
    if v = "" then default
    else String.ofList (lower (stripText v)) ∈ ["1","true","yes","on"]

def validScopes : List String := ["pa_only","all_gated"]

/-- `_build_settings`, once the file has been loaded. -/
def buildSettings : Settings :=
  let scope := orText (getText environ "MAS_LLM_ROUTER_SCOPE" "pa_only") "pa_only"
  let scope := String.ofList (lower (stripText scope))
  { apiHost := stripText (orText (getText environ "MAS_API_HOST" "127.0.0.1") "127.0.0.1")
    apiPort := getEnvInt py environ "MAS_API_PORT" 8787
    taktSec := getEnvFloat environ "MAS_TAKT_SEC" (.fin 2)
    llmModel := orText (stripText (getText environ "MAS_LLM_MODEL" "gpt-4o-mini")) "gpt-4o-mini"
    llmDomainModel := stripText (getText environ "MAS_LLM_DOMAIN_MODEL" "")
    logLevel := orText (stripText (getText environ "MAS_LOG_LEVEL" "INFO")) "INFO"
    apiBearerToken := stripText (getText environ "MAS_API_BEARER_TOKEN" "")
    corsOrigins := orText (stripText (getText environ "MAS_CORS_ORIGINS" "*")) "*"
    llmRouterScope := if scope ∈ validScopes then scope else "pa_only"
    llmPerAgentAssist := getEnvBool environ "MAS_LLM_PER_AGENT_ASSIST" false }

/-- The first call of `get_settings`, with the environment it leaves. -/
def getSettings (file : Option (List Char)) : Except PyErr (Settings × Environ) := do
  let environ ← loadFile environ file
  pure (buildSettings py environ,environ)

end

end ManufacturingMas.Config
