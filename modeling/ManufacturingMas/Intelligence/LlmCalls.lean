import ManufacturingMas.Lib.Logs
import ManufacturingMas.Py.Value

/-! The calls of the LLM client: its two entry points, and the logs and counters that
they keep. Times are left out. -/

namespace ManufacturingMas.LlmCalls
open Py

/-- The usage block of an answer, in which a number may be missing. -/
structure Usage where
  promptTokens : Option Int
  completionTokens : Option Int
  totalTokens : Option Int

/-- An answer of the service; each choice has the content of its message. -/
structure Completion where
  usage : Option Usage
  choices : List (Option String)

/-- What the service makes of a request: an exception with its text, or an answer. -/
inductive Reply where
  | failed (error : String)
  | answered (resp : Completion)

structure TokenUsage where
  promptTokens : Int
  completionTokens : Int
  totalTokens : Int
  calls : Nat
  errors : Nat

/-- `enabled` is set where the service's client is made, and never changes. -/
structure LLMClient where
  enabled : Bool
  model : String
  promptSuiteVersion : String
  tokenUsage : TokenUsage
  callLog : List Dict
  auditLog : List Dict

def maxCallLog : Nat := 200
def maxAuditLog : Nat := 300

namespace LLMClient

def new (enabled : Bool) (model : String := "gpt-4o-mini") : LLMClient :=
  { enabled := enabled, model := model, promptSuiteVersion := "2026.04.07"
    tokenUsage :=
      { promptTokens := 0, completionTokens := 0, totalTokens := 0, calls := 0, errors := 0 }
    callLog := [], auditLog := [] }

/-- `_audit`. -/
def audit (c : LLMClient) (kind : String) (entry : Dict) : LLMClient :=
  { c with auditLog :=
      Ring.pushCut maxAuditLog (maxAuditLog / 2) c.auditLog (("kind", .str kind) :: entry) }

def logCall (c : LLMClient) (entry : Dict) : LLMClient :=
  { c with callLog := Ring.pushCut maxCallLog (maxCallLog / 2) c.callLog entry }

/-- The handler of both entry points, which does not cut the log. -/
def logError (c : LLMClient) (error : String) : LLMClient :=
  { c with
    tokenUsage := { c.tokenUsage with errors := c.tokenUsage.errors + 1 }
    callLog := c.callLog ++ [[("error", .str error)]] }

def countCall (c : LLMClient) : LLMClient :=
  { c with tokenUsage := { c.tokenUsage with calls := c.tokenUsage.calls + 1 } }

/-- `model or self.model`. -/
def useModel (c : LLMClient) (model : Option String) : String :=
  match model with
  | none => c.model
  | some m => if m = "" then c.model else m

end LLMClient

/-- The text of the TypeError that a missing number raises. -/
def noNumber : String := "unsupported operand type(s) for +=: 'int' and 'NoneType'"

/-- The sums of the usage; a missing number stops them where it is met. -/
def TokenUsage.add (t : TokenUsage) (u : Usage) : Except TokenUsage TokenUsage :=
  match u.promptTokens with
  | none => .error t
  | some prompt =>
    let t := { t with promptTokens := t.promptTokens + prompt }
    match u.completionTokens with
    | none => .error t
    | some completion =>
      let t := { t with completionTokens := t.completionTokens + completion }
      match u.totalTokens with
      | none => .error t
      | some total => .ok { t with totalTokens := t.totalTokens + total }

/-- The part before the content is read: the sums, and the count of the call. -/
def LLMClient.countUsage (c : LLMClient) (usage : Option Usage) : Except LLMClient LLMClient :=
  match usage with
  | none => .ok c.countCall
  | some u =>
    match c.tokenUsage.add u with
    | .error t => .error { c with tokenUsage := t }
    | .ok t => .ok { c with tokenUsage := t }.countCall

def promptTokensOf (usage : Option Usage) : Val :=
  match usage.bind (·.promptTokens) with
  | some n => .int n
  | none => .int 0

def completionTokensOf (usage : Option Usage) : Val :=
  match usage.bind (·.completionTokens) with
  | some n => .int n
  | none => .int 0

def noChoice : String := "list index out of range"
def noContent : String := "the JSON object must be str, bytes or bytearray, not NoneType"

/-- `json.loads(resp.choices[0].message.content)`; `loads` returns a value or the text
of its exception. -/
def jsonContent (loads : String → Except String Val) (resp : Completion) : Except String Val :=
  match resp.choices with
  | [] => .error noChoice
  | none :: _ => .error noContent
  | some text :: _ => loads text

/-- `(resp.choices[0].message.content or "").strip()`. -/
def textContent (resp : Completion) : Except String String :=
  match resp.choices with
  | [] => .error noChoice
  | content :: _ => .ok (stripText (content.getD ""))

def responseKeys : Val → List Val
  | .dict d => d.map fun p => .str p.1
  | _ => []

namespace LLMClient

/-- `_call`; `reply` is what the service makes of the request. -/
def call (loads : String → Except String Val) (c : LLMClient) (system user : String)
    (model : Option String) (logExtra : Option Dict) (reply : Reply) : Option Val × LLMClient :=
  if !c.enabled then (none, c)
  else match reply with
    | .failed error => (none, c.logError error)
    | .answered resp =>
      match c.countUsage resp.usage with
      | .error c => (none, c.logError noNumber)
      | .ok c =>
        match jsonContent loads resp with
        | .error error => (none, c.logError error)
        | .ok result =>
          let c := c.audit "chat_completion_json"
            [("model", .str (c.useModel model)),
              ("prompt_chars", .int (system.length + user.length)),
              ("response_keys", .list (responseKeys result)),
              ("allowed_surface", .str "strategy_rationale_only")]
          let entry := [("model", .str (c.useModel model)),
            ("prompt_tokens", promptTokensOf resp.usage),
            ("completion_tokens", completionTokensOf resp.usage),
            ("prompt_suite", .str c.promptSuiteVersion)]
          (some result, c.logCall (Assoc.update entry (logExtra.getD [])))

def completeText (c : LLMClient) (system user : String) (model : Option String)
    (reply : Reply) : Option String × LLMClient :=
  if !c.enabled then (none, c)
  else match reply with
    | .failed error => (none, c.logError error)
    | .answered resp =>
      match c.countUsage resp.usage with
      | .error c => (none, c.logError noNumber)
      | .ok c =>
        match textContent resp with
        | .error error => (none, c.logError error)
        | .ok content =>
          let c := c.audit "chat_completion_text"
            [("model", .str (c.useModel model)),
              ("prompt_chars", .int (system.length + user.length)),
              ("response_chars", .int content.length),
              ("allowed_surface", .str "monitoring_qa")]
          let c := c.logCall [("model", .str (c.useModel model)),
            ("prompt_tokens", promptTokensOf resp.usage),
            ("prompt_id", .str "monitoring_qa_v1")]
          (if content = "" then none else some content, c)

end LLMClient

/-- An invocation of one of the two entry points, with what the service makes of it. -/
inductive Invocation where
  | call (system user : String) (model : Option String) (logExtra : Option Dict) (reply : Reply)
  | completeText (system user : String) (model : Option String) (reply : Reply)

def LLMClient.invoke (loads : String → Except String Val) (c : LLMClient) :
    Invocation → LLMClient
  | .call system user model logExtra reply => (c.call loads system user model logExtra reply).2
  | .completeText system user model reply => (c.completeText system user model reply).2

end ManufacturingMas.LlmCalls
