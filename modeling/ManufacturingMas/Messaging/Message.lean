import Mathlib.Tactic.TypeStar

namespace ManufacturingMas.Messaging

abbrev AgentId := String

inductive Intent where
  | cfp | propose | acceptProposal | rejectProposal
  | inform | request | alert | acknowledge | confirm
  | demandChange | stockAlert | planUpdate
  | toolCall | toolResult
  | acceptJob | rejectJob
  | statusReport
deriving DecidableEq, Repr

def Intent.value : Intent → String
  | .cfp => "CFP" | .propose => "PROPOSE"
  | .acceptProposal => "ACCEPT_PROPOSAL" | .rejectProposal => "REJECT_PROPOSAL"
  | .inform => "INFORM" | .request => "REQUEST" | .alert => "ALERT"
  | .acknowledge => "ACKNOWLEDGE" | .confirm => "CONFIRM"
  | .demandChange => "DEMAND_CHANGE" | .stockAlert => "STOCK_ALERT" | .planUpdate => "PLAN_UPDATE"
  | .toolCall => "TOOL_CALL" | .toolResult => "TOOL_RESULT"
  | .acceptJob => "ACCEPT_JOB" | .rejectJob => "REJECT_JOB"
  | .statusReport => "STATUS_REPORT"

structure MessageHeader where
  sender : AgentId
  receiver : AgentId
  conversationId : String
  timestamp : String
  messageId : String
  protocol : String
deriving DecidableEq, Repr

/-- The broker never looks into the body, so its type is left open. -/
structure AgentMessage (β : Type) where
  header : MessageHeader
  intent : Intent
  body : β
deriving DecidableEq, Repr

/-- The three texts are what the clock and `uuid4` return; an absent or empty
conversation id is replaced by a fresh one. -/
def AgentMessage.create {β : Type} (sender receiver : AgentId) (intent : Intent) (body : β)
    (conversationId : Option String) (freshConversation timestamp messageId : String) :
    AgentMessage β :=
  { header :=
      { sender := sender, receiver := receiver
        conversationId := match conversationId with
          | some c => if c = "" then freshConversation else c
          | none => freshConversation
        timestamp := timestamp, messageId := messageId, protocol := "CNP" }
    intent := intent, body := body }

end ManufacturingMas.Messaging
