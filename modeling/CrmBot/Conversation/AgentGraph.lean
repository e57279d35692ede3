import CrmBot.Conversation.AgentNodes

/-! The agent graph: its nodes, its edges, and the run of one turn through it. -/

namespace CrmBot.Conversation

inductive AgentGraphNode
  | loadState
  | rulesCheck
  | intentExtractor
  | policyEngine
  | commercialContextLookup
  | kbSearch
  | toolExecutor
  | escalate
  | responseGenerator
  | templateResponse
  | responder
  | persist
  deriving DecidableEq

/-- What a turn does outside of the graph state. -/
inductive TurnEffect
  | policyDecision (result : PolicyDecisionResult)
  | threadWaiting
  | escalationTicket
  | managerNotified
  | escalationMetrics
  | delivered (text : String)
  | assistantMessage (text : String)
  | technicalIncidentTicket
  | technicalIncidentNotice
  | aiResponse (text : Option String) (requiresHuman : Bool)
  | toolCalled (tool : String)
  | technicalFailure (count : Nat) (incidentCreated : Bool)
  | ticketCreated

section Nodes

variable (methods : StrMethods) (record : ThreadRecord) (input : TurnInput)

/-- The state after a node. The two lookups write fields that only the prompt of the
generator reads, and `persist_node` writes none. -/
def runNode (node : AgentGraphNode) (state : AgentState) : AgentState :=
  match node with
  | .loadState => loadStateNode record input state
  | .rulesCheck => rulesNode methods state
  | .intentExtractor => intentExtractorNode input state
  | .policyEngine => policyEngineNode methods state
  | .commercialContextLookup => state
  | .kbSearch => state
  | .toolExecutor => toolExecutorNode input state
  | .escalate => escalateNode state
  | .responseGenerator => responseGeneratorNode input state
  | .templateResponse => templateResponseNode methods state
  | .responder => responderNode input state
  | .persist => state

/-- The effect of a call, unless the call raises. -/
def attempt (call : TurnCall) (effect : TurnEffect) : List TurnEffect :=
  if input.raises call then [] else [effect]

/-- The event of a policy decision: the other two ways out of the node emit none. -/
def policyEffects (state : AgentState) : List TurnEffect :=
  if state.decision = some .respond ∧ isFilled state.responseText = true then []
  else if signalOf methods state.domain "business" ∈ templateDomains ∨
      state.shouldGenerateAnswer.getD true = false then []
  else attempt input (.appendEvent "policy_decision")
    (.policyDecision (decidedPolicyResult methods (PolicyDecisionContext.fromState state)))

def escalateEffects : List TurnEffect :=
  attempt input .updateStatus .threadWaiting ++
    attempt input .escalationTicket .escalationTicket ++
    attempt input .notifyManager .managerNotified ++
    attempt input .escalationMetrics .escalationMetrics

def responderEffects (state : AgentState) : List TurnEffect :=
  if state.chatId = 0 ∨ input.delivery ≠ .sent then []
  else .delivered (resolveResponseText state) ::
    attempt input .saveDeliveredMessage (.assistantMessage (resolveResponseText state))

def persistEffects (state : AgentState) : List TurnEffect :=
  (if isFilled state.responseText then
      attempt input .savePendingMessage (.assistantMessage (state.responseText.getD ""))
    else []) ++
  (if shouldCreateTechnicalIncident state then
      attempt input .incidentTicket .technicalIncidentTicket ++
        attempt input .incidentNotice .technicalIncidentNotice
    else []) ++
  attempt input (.appendEvent "ai_response") (.aiResponse state.responseText state.requiresHuman) ++
  (if isFilled state.toolName then
      attempt input (.appendEvent "tool_called") (.toolCalled (state.toolName.getD ""))
    else []) ++
  (if 0 < state.technicalFailureCount then
      attempt input (.appendEvent "technical_failure") (.technicalFailure
        state.technicalFailureCount (persistedPayload input state).technicalIncidentCreated)
    else []) ++
  (if state.requiresHuman then attempt input (.appendEvent "ticket_created") .ticketCreated else [])

/-- What a node does when it is reached with a state. -/
def nodeEffects (node : AgentGraphNode) (state : AgentState) : List TurnEffect :=
  match node with
  | .policyEngine => policyEffects methods input state
  | .escalate => escalateEffects input
  | .responder => responderEffects input state
  | .persist => persistEffects input state
  | _ => []

end Nodes

/-- Where the graph goes after a node. -/
inductive GraphEdge
  | next (node : AgentGraphNode)
  | finish
  | missing

def routeFromRules (state : AgentState) : GraphEdge :=
  match state.decision.getD .proceedToLlm with
  | .respond => .next .responder
  | .escalate => .next .escalate
  | .proceedToLlm => .next .intentExtractor
  | _ => .missing

def routeFromPolicy (state : AgentState) : GraphEdge :=
  match state.decision.getD .llmGenerate with
  | .respond => .next .responder
  | .respondTemplate => .next .templateResponse
  | .llmGenerate => .next .commercialContextLookup
  | .escalateToHuman => .next .escalate
  | .callTool => .next .toolExecutor
  | .escalate => .next .escalate
  | _ => .missing

/-- The edges that `create_agent` adds. -/
def edgeFrom (node : AgentGraphNode) (state : AgentState) : GraphEdge :=
  match node with
  | .loadState => .next .rulesCheck
  | .rulesCheck => routeFromRules state
  | .intentExtractor => .next .policyEngine
  | .policyEngine => routeFromPolicy state
  | .commercialContextLookup => .next .kbSearch
  | .kbSearch => .next .responseGenerator
  | .toolExecutor => if state.requiresHuman then .next .escalate else .next .responseGenerator
  | .escalate => .next .responder
  | .responseGenerator => .next .responder
  | .templateResponse => .next .responder
  | .responder => .next .persist
  | .persist => .finish

structure GraphRun where
  state : AgentState
  visited : List AgentGraphNode
  effects : List TurnEffect

inductive GraphFault
  | recursionLimit
  | noEdge
  | raised (error : String)
  deriving DecidableEq

section Runs

variable (methods : StrMethods) (record : ThreadRecord) (input : TurnInput)

/-- The run after one more node. -/
def GraphRun.visit (node : AgentGraphNode) (run : GraphRun) : GraphRun where
  state := runNode methods record input node run.state
  visited := run.visited ++ [node]
  effects := run.effects ++ nodeEffects methods input node run.state

/-- The run from a node on, with the nodes that the recursion limit leaves. -/
def runGraph : Nat → AgentGraphNode → GraphRun → Except GraphFault GraphRun
  | 0, _, _ => .error .recursionLimit
  | fuel + 1, node, run =>
    let visited := run.visit methods record input node
    match edgeFrom node visited.state with
    | .next target => runGraph fuel target visited
    | .finish => .ok visited
    | .missing => .error .noEdge

/-- The default of the graph package: `graph.ainvoke` is called without a limit. -/
def recursionLimit : Nat := 25

/-- One turn: the graph run of a message of the client, on the thread that was read. -/
def invokeGraph : Except GraphFault GraphRun :=
  runGraph methods record input recursionLimit .loadState ⟨buildAgentState input, [], []⟩

/-- `graph.ainvoke` on what the reads of `load_state_node` return. They are in no
handler: one that raises ends the turn. -/
def ainvoke (loaded : Except String ThreadRecord) : Except GraphFault GraphRun :=
  match loaded with
  | .ok stored => invokeGraph methods stored input
  | .error error => .error (.raised error)

end Runs

end CrmBot.Conversation
