/-
The copilot's agent loop: `services/ai/copilot_service.py`, with the tool registry of
`services/ai/tools.py` and `parse_message` of `services/ai/client.py`.

The model is asked, the tools it calls are run, what they return is fed back, and so on until an
answer calls none or the steps are used up. The model is any function of what it is sent, a tool
any function that may fail and may change what it reaches, and the `json` module is the codec of
the objects `O`. What the gateway asks of a conversation is that every call is answered once, in
order, before the model is asked again.
-/
import EnvMgr.Core.Directory
import EnvMgr.Lib.Index
import EnvMgr.Lib.Table
import Mathlib.Data.String.Basic

namespace EnvMgr.Copilot

/-! ## What the model says -/

/-- What `json.loads` makes of a text. -/
inductive Parsed (O : Type)
  | object (o : O)
  | other
  | JSONDecodeError
  deriving DecidableEq

/-- The `json` module, on objects. -/
structure Json (O : Type) where
  loads : String → Parsed O
  dumps : O → String
  empty : O
  /-- `{"error": message}`. -/
  error_object : String → O

/-- A call in the SDK's `ChatCompletionMessage`. -/
structure SdkCall where
  id : String
  name : String
  arguments : Option String

structure SdkMessage where
  content : Option String
  reasoning_content : Option String
  tool_calls : List SdkCall

structure ToolCall (O : Type) where
  id : String
  name : String
  /-- `none` where the model's arguments were not a JSON object. -/
  arguments : Option O
  raw_arguments : String

structure ChatResult (O : Type) where
  content : String
  reasoning : Option String
  tool_calls : List (ToolCall O)
  finish_reason : Option String

variable {O σ : Type}

def parse_arguments (json : Json O) (raw : String) : Option O :=
  if strip raw = "" then some json.empty
  else
    match json.loads raw with
    | .object o => some o
    | .other => none
    | .JSONDecodeError => none

def parse_call (json : Json O) (call : SdkCall) : ToolCall O :=
  let raw := call.arguments.getD ""
  ⟨call.id, call.name, parse_arguments json raw, raw⟩

def parse_message (json : Json O) (message : SdkMessage) (finish_reason : Option String) :
    ChatResult O :=
  { content := message.content.getD ""
    reasoning := message.reasoning_content.filter fun s => s ≠ ""
    tool_calls := message.tool_calls.map (parse_call json)
    finish_reason := finish_reason }

/-! ## What the model is sent -/

/-- An entry of an assistant message's `tool_calls`. -/
structure FunctionCall where
  id : String
  name : String
  arguments : String
  deriving DecidableEq

inductive Message
  | system (content : String)
  | user (content : String)
  | assistant (content : Option String) (tool_calls : List FunctionCall)
  | tool (tool_call_id : String) (content : String)
  deriving DecidableEq

/-- A tool. `σ` is what its handler reaches through the `ToolContext`. -/
structure ToolSpec (O σ : Type) where
  name : String
  description : String
  parameters : O
  handler : σ → O → Except Raised String × σ

structure ToolDefinition (O : Type) where
  name : String
  description : String
  parameters : O

def openai_tool_definitions (specs : List (ToolSpec O σ)) : List (ToolDefinition O) :=
  specs.map fun s => ⟨s.name, s.description, s.parameters⟩

def SYSTEM_PROMPT : String :=
  "You are the EnvManager copilot, an assistant for a test-environment register. Answer from " ++
    "the tools provided; do not invent environments, ids or statuses. Ids are integers. When a " ++
    "tool returns an error, correct the call and try again. Answer concisely."

/-- The client and the tools of one run. -/
structure Agent (O σ : Type) where
  json : Json O
  chat : List Message → List (ToolDefinition O) → Except Raised (ChatResult O)
  tools : List (ToolSpec O σ)

def Agent.definitions (agent : Agent O σ) : List (ToolDefinition O) :=
  openai_tool_definitions agent.tools

/-- `{s.name: s for s in specs}`. -/
def Agent.by_name (agent : Agent O σ) : Index String (ToolSpec O σ) :=
  Index.collect (fun s => some s.name) agent.tools

/-! ## The loop -/

structure AgentTurn (O : Type) where
  name : String
  arguments : Option O
  /-- Exactly what was fed back to the model. -/
  result : String

structure AgentResult (O : Type) where
  answer : String
  reasoning : Option String
  turns : List (AgentTurn O)
  steps : ℕ

inductive Failure
  | AgentStepLimit (message : String)
  | raised (e : Raised)

/-- The variables of the loop, and what the tools reach. -/
structure Conversation (O σ : Type) where
  messages : List Message
  turns : List (AgentTurn O)
  ctx : σ

def error (json : Json O) (message : String) : String := json.dumps (json.error_object message)

def _dispatch (agent : Agent O σ) (ctx : σ) (call : ToolCall O) : String × σ :=
  match agent.by_name.get call.name with
  | none =>
    let available := ", ".intercalate (order_by String.toList agent.by_name.keys)
    (error agent.json s!"Unknown tool '{call.name}'. Available tools: {available}.", ctx)
  | some spec =>
    match call.arguments with
    | none =>
      let raw := py_repr call.raw_arguments
      (error agent.json s!"The arguments for {call.name} were not valid JSON: {raw}. Send a JSON object.",
        ctx)
    | some arguments =>
      match spec.handler ctx arguments with
      | (.ok text, ctx') => (text, ctx')
      -- a handler bug must not take the whole turn down; what it did before it failed stays done
      | (.error _, ctx') =>
        (error agent.json s!"{call.name} failed internally; try a different query.", ctx')

/-- The call as it goes back into the conversation. -/
def echo (json : Json O) (call : ToolCall O) : FunctionCall :=
  ⟨call.id, call.name,
    match call.arguments with
    | some arguments => json.dumps arguments
    | none => call.raw_arguments⟩

def said (json : Json O) (result : ChatResult O) : Message :=
  .assistant (if result.content = "" then none else some result.content)
    (result.tool_calls.map (echo json))

def answer_call (agent : Agent O σ) (s : Conversation O σ) (call : ToolCall O) :
    Conversation O σ :=
  let (fed_back, ctx) := _dispatch agent s.ctx call
  { messages := s.messages ++ [.tool call.id fed_back]
    turns := s.turns ++ [⟨call.name, call.arguments, fed_back⟩]
    ctx := ctx }

def answer_calls (agent : Agent O σ) (s : Conversation O σ) (result : ChatResult O) :
    Conversation O σ :=
  result.tool_calls.foldl (answer_call agent)
    { s with messages := s.messages ++ [said agent.json result] }

/-- `for step in range(step, ..)`, `n` more times: `none` where the range is used up. -/
def ask (agent : Agent O σ) : ℕ → ℕ → Conversation O σ →
    Option (Except Raised (AgentResult O)) × Conversation O σ
  | 0, _, s => (none, s)
  | n + 1, step, s =>
    match agent.chat s.messages agent.definitions with
    | .error e => (some (.error e), s)
    | .ok result =>
      if result.tool_calls = [] then
        (some (.ok ⟨result.content, result.reasoning, s.turns, step⟩), s)
      else ask agent n (step + 1) (answer_calls agent s result)

def Conversation.opened (question : String) (ctx : σ) : Conversation O σ :=
  ⟨[.system SYSTEM_PROMPT, .user question], [], ctx⟩

/-- The result, and the conversation as it stands when the call returns or raises. -/
def run_agent (agent : Agent O σ) (ctx : σ) (question : String) (max_steps : ℕ) :
    Except Failure (AgentResult O) × Conversation O σ :=
  match ask agent max_steps 1 (Conversation.opened question ctx) with
  | (some (.ok result), s) => (.ok result, s)
  | (some (.error e), s) => (.error (.raised e), s)
  | (none, s) => (.error (.AgentStepLimit s!"no answer after {max_steps} steps"), s)

/-! ## What is said comes back as it was said -/

/-- Reading back what was written: the documented behaviour of the codec. -/
structure Json.Faithful (json : Json O) : Prop where
  loads_dumps : ∀ o, json.loads (json.dumps o) = .object o
  dumps_blank : ∀ o, strip (json.dumps o) ≠ ""

/-- **The echo of a call is that call.** Whatever the model sent as arguments, blank, broken or
not an object, what it is shown of it reads as what it called. -/
theorem parse_echo {json : Json O} (hjson : json.Faithful) (call : SdkCall) :
    parse_arguments json (echo json (parse_call json call)).arguments =
      (parse_call json call).arguments := by
  unfold echo
  cases hargs : (parse_call json call).arguments with
  | none =>
    dsimp only [parse_call] at hargs ⊢
    exact hargs
  | some o =>
    unfold parse_arguments
    dsimp only
    rw [if_neg (hjson.dumps_blank o), hjson.loads_dumps]

/-- A codec of two objects. -/
def flags : Json Bool where
  loads s := if s = "\x7b\x7d" then .object false else if s = "[]" then .other else .object true
  dumps o := if o then "\x7b\"error\": \"\"\x7d" else "\x7b\x7d"
  empty := false
  error_object _ := true

example : flags.Faithful := ⟨by decide, by decide⟩

/-! ## Exchanges -/

/-- An answer of the model that calls tools, with what each of its calls was told. -/
structure Exchange where
  content : Option String
  calls : List FunctionCall
  told : List String
  calling : calls ≠ []
  answered : told.length = calls.length

def Exchange.messages (e : Exchange) : List Message :=
  .assistant e.content e.calls :: List.zipWith (fun c text => .tool c.id text) e.calls e.told

/-- A conversation in which every call is answered, once and in order, before the model speaks
again. -/
def transcript (question : String) (exchanges : List Exchange) : List Message :=
  .system SYSTEM_PROMPT :: .user question :: exchanges.flatMap Exchange.messages

/-- What a turn did to what the tools reach: nothing, unless it named a tool and gave it an
object. -/
def effect (agent : Agent O σ) (ctx : σ) (turn : AgentTurn O) : σ :=
  match agent.by_name.get turn.name, turn.arguments with
  | some spec, some arguments => (spec.handler ctx arguments).2
  | _, _ => ctx

/-- The conversation is made of these exchanges, and its turns say what the tools were called
with, what they answered and what they did. -/
structure Recorded (agent : Agent O σ) (question : String) (ctx : σ) (exchanges : List Exchange)
    (s : Conversation O σ) : Prop where
  messages : s.messages = transcript question exchanges
  called : s.turns.map AgentTurn.name = exchanges.flatMap fun e => e.calls.map FunctionCall.name
  told : s.turns.map AgentTurn.result = exchanges.flatMap Exchange.told
  effects : s.ctx = s.turns.foldl (effect agent) ctx

theorem dispatch_effect (agent : Agent O σ) (ctx : σ) (call : ToolCall O) (text : String) :
    (_dispatch agent ctx call).2 = effect agent ctx ⟨call.name, call.arguments, text⟩ := by
  unfold _dispatch effect
  cases agent.by_name.get call.name with
  | none => rfl
  | some spec =>
    cases call.arguments with
    | none => rfl
    | some arguments =>
      -- the handler's context is kept whether it returned or raised
      dsimp only
      rcases spec.handler ctx arguments with ⟨_ | _, ctx'⟩ <;> rfl

/-- What a round of calls adds: one message and one turn for each, in order. -/
theorem answer_calls_adds (agent : Agent O σ) (calls : List (ToolCall O)) :
    ∀ s : Conversation O σ, ∃ turns : List (AgentTurn O),
      turns.map AgentTurn.name = calls.map ToolCall.name ∧
      (calls.foldl (answer_call agent) s).messages = s.messages ++
        List.zipWith (fun c text => .tool c.id text) (calls.map (echo agent.json))
          (turns.map AgentTurn.result) ∧
      (calls.foldl (answer_call agent) s).turns = s.turns ++ turns ∧
      (calls.foldl (answer_call agent) s).ctx = turns.foldl (effect agent) s.ctx := by
  induction calls with
  | nil => intro s; exact ⟨[], by simp⟩
  | cons call calls ih =>
    intro s
    obtain ⟨turns, hnames, hmessages, hturns, hctx⟩ := ih (answer_call agent s call)
    refine ⟨⟨call.name, call.arguments, (_dispatch agent s.ctx call).1⟩ :: turns, ?_, ?_, ?_, ?_⟩
    · rw [List.map_cons, List.map_cons, hnames]
    · rw [List.foldl_cons, hmessages, List.map_cons, List.map_cons, List.zipWith_cons_cons]
      simp only [answer_call, echo, List.append_assoc, List.singleton_append]
    · rw [List.foldl_cons, hturns]
      simp only [answer_call, List.append_assoc, List.singleton_append]
    · rw [List.foldl_cons, hctx, List.foldl_cons]
      have hfirst : (answer_call agent s call).ctx = effect agent s.ctx
          ⟨call.name, call.arguments, (_dispatch agent s.ctx call).1⟩ :=
        dispatch_effect agent s.ctx call _
      rw [hfirst]

/-- One answer that calls tools makes one more exchange. -/
theorem Recorded.answered {agent : Agent O σ} {question : String} {ctx : σ}
    {exchanges : List Exchange} {s : Conversation O σ} {result : ChatResult O}
    (h : Recorded agent question ctx exchanges s) (hcalls : result.tool_calls ≠ []) :
    ∃ e, Recorded agent question ctx (exchanges ++ [e]) (answer_calls agent s result) := by
  obtain ⟨turns, hnames, hmessages, hturns, hctx⟩ :=
    answer_calls_adds agent result.tool_calls
      { s with messages := s.messages ++ [said agent.json result] }
  have hlength : turns.length = result.tool_calls.length := by
    have := congrArg List.length hnames
    rwa [List.length_map, List.length_map] at this
  have hechoed : (result.tool_calls.map (echo agent.json)).map FunctionCall.name =
      turns.map AgentTurn.name := by
    rw [hnames, List.map_map]
    rfl
  refine ⟨⟨if result.content = "" then none else some result.content,
    result.tool_calls.map (echo agent.json), turns.map AgentTurn.result,
    fun hnil => hcalls (List.map_eq_nil_iff.1 hnil), by simp [hlength]⟩, ?_, ?_, ?_, ?_⟩
  · unfold answer_calls
    rw [hmessages, h.messages]
    simp [transcript, Exchange.messages, said]
  · unfold answer_calls
    rw [hturns, List.map_append, h.called, List.flatMap_append, List.flatMap_singleton, hechoed]
  · unfold answer_calls
    rw [hturns, List.map_append, h.told, List.flatMap_append, List.flatMap_singleton]
  · unfold answer_calls
    rw [hctx, hturns, List.foldl_append, ← h.effects]

/-- The induction is on the rounds that are left. -/
theorem ask_recorded {agent : Agent O σ} {question : String} {ctx : σ} (n : ℕ) :
    ∀ (step : ℕ) (exchanges : List Exchange) (s : Conversation O σ),
      Recorded agent question ctx exchanges s →
      ∃ more : List Exchange, more.length ≤ n ∧
        Recorded agent question ctx (exchanges ++ more) (ask agent n step s).2 ∧
        ∀ result, (ask agent n step s).1 = some (.ok result) →
          result.steps = step + more.length ∧ result.turns = (ask agent n step s).2.turns ∧
            more.length < n := by
  induction n with
  | zero =>
    intro step exchanges s h
    refine ⟨[], le_refl _, ?_, fun result hresult => by cases hresult⟩
    rw [List.append_nil]
    exact h
  | succ n ih =>
    intro step exchanges s h
    rw [ask]
    cases agent.chat s.messages agent.definitions with
    | error e =>
      refine ⟨[], Nat.zero_le _, ?_, fun result hresult => by cases hresult⟩
      rw [List.append_nil]
      exact h
    | ok answer =>
      dsimp only
      by_cases hcalls : answer.tool_calls = []
      · rw [if_pos hcalls]
        refine ⟨[], Nat.zero_le _, ?_, fun result hresult => ?_⟩
        · rw [List.append_nil]
          exact h
        · obtain rfl := Except.ok.inj (Option.some.inj hresult)
          exact ⟨rfl, rfl, Nat.succ_pos n⟩
      · rw [if_neg hcalls]
        obtain ⟨e, he⟩ := h.answered hcalls
        obtain ⟨more, hmore, hrec, hresult⟩ := ih (step + 1) (exchanges ++ [e]) _ he
        refine ⟨e :: more, Nat.succ_le_succ hmore, ?_, fun result hok => ?_⟩
        · rw [List.append_assoc, List.singleton_append] at hrec
          exact hrec
        · obtain ⟨hsteps, hturns, hlt⟩ := hresult result hok
          rw [List.length_cons]
          exact ⟨by omega, hturns, by omega⟩

/-- **The conversation is one the gateway accepts, and the turns are its record.** Whatever the
model says and whatever the tools do, at the end of a run of any length the messages are a system
prompt, the question and exchanges in which every call is answered once, in order; the turns name
the tools called and carry exactly what was fed back; what the tools reach is what replaying the
turns makes of it, so a call of an unknown tool or with broken arguments did nothing; and a
result's turns and steps are those of the conversation. -/
theorem agent_transcript (agent : Agent O σ) (ctx : σ) (question : String) (max_steps : ℕ) :
    ∃ exchanges : List Exchange, exchanges.length ≤ max_steps ∧
      Recorded agent question ctx exchanges (run_agent agent ctx question max_steps).2 ∧
      ∀ result, (run_agent agent ctx question max_steps).1 = .ok result →
        result.turns = (run_agent agent ctx question max_steps).2.turns ∧
          result.steps = exchanges.length + 1 ∧ result.steps ≤ max_steps := by
  have hopened : Recorded agent question ctx [] (Conversation.opened question ctx) :=
    ⟨rfl, rfl, rfl, rfl⟩
  obtain ⟨exchanges, hlength, hrec, hresult⟩ := ask_recorded max_steps 1 [] _ hopened
  rw [List.nil_append] at hrec
  refine ⟨exchanges, hlength, ?_⟩
  unfold run_agent
  rcases hask : ask agent max_steps 1 (Conversation.opened question ctx) with
    ⟨_ | (e | result), s⟩
  · rw [hask] at hrec
    exact ⟨hrec, fun result h => by cases h⟩
  · rw [hask] at hrec
    exact ⟨hrec, fun result h => by cases h⟩
  · rw [hask] at hrec hresult
    refine ⟨hrec, fun result' h => ?_⟩
    obtain rfl := Except.ok.inj h
    obtain ⟨hsteps, hturns, hlt⟩ := hresult result rfl
    exact ⟨hturns, by omega, by omega⟩

/-! ## The limit of the steps -/

/-- One more step is one more question, asked only where the last one left off. -/
theorem ask_succ (agent : Agent O σ) (n : ℕ) :
    ∀ (step : ℕ) (s : Conversation O σ), ask agent (n + 1) step s =
      match ask agent n step s with
      | (none, s') => ask agent 1 (step + n) s'
      | done => done := by
  induction n with
  | zero => intro step s; rfl
  | succ n ih =>
    intro step s
    rw [ask, ask]
    cases agent.chat s.messages agent.definitions with
    | error e => rfl
    | ok result =>
      dsimp only
      split
      · rfl
      · rw [ih, Nat.add_right_comm, Nat.add_assoc]

/-- What a run came to it comes to with more steps. -/
theorem ask_mono (agent : Agent O σ) {n m step : ℕ} (hnm : n ≤ m) (s : Conversation O σ)
    (h : (ask agent n step s).1 ≠ none) : ask agent m step s = ask agent n step s := by
  induction m, hnm using Nat.le_induction with
  | base => rfl
  | succ m hm ih =>
    rw [ask_succ, ih]
    rcases hask : ask agent n step s with ⟨_ | done, s'⟩
    · rw [hask] at h
      exact absurd rfl h
    · rfl

/-- The steps are used up exactly if every one of them called tools. -/
theorem ask_none_iff (agent : Agent O σ) (n step : ℕ) (s : Conversation O σ) :
    (ask agent n step s).1 = none ↔ ∀ k < n, ∃ result,
      agent.chat (ask agent k step s).2.messages agent.definitions = .ok result ∧
        result.tool_calls ≠ [] := by
  induction n with
  | zero => exact ⟨fun _ k hk => absurd hk (Nat.not_lt_zero k), fun _ => rfl⟩
  | succ n ih =>
    -- the last step is asked in the conversation the ones before it left
    have hlast : (ask agent (n + 1) step s).1 = none ↔ (ask agent n step s).1 = none ∧
        ∃ result, agent.chat (ask agent n step s).2.messages agent.definitions = .ok result ∧
          result.tool_calls ≠ [] := by
      rw [ask_succ]
      rcases hask : ask agent n step s with ⟨_ | done, s'⟩
      · dsimp only
        rw [ask]
        cases agent.chat s'.messages agent.definitions with
        | error e => simp
        | ok result =>
          by_cases hcalls : result.tool_calls = []
          · simp [hcalls]
          · simp [hcalls, ask]
      · simp
    rw [hlast, ih]
    constructor
    · rintro ⟨hbefore, hnow⟩ k hk
      rcases Nat.lt_succ_iff_lt_or_eq.1 hk with hk | rfl
      · exact hbefore k hk
      · exact hnow
    · intro hall
      exact ⟨fun k hk => hall k (Nat.lt_succ_of_lt hk), hall n (Nat.lt_succ_self n)⟩

theorem ask_error (agent : Agent O σ) {e : Raised} (n : ℕ) :
    ∀ (step : ℕ) (s : Conversation O σ), (ask agent n step s).1 = some (.error e) →
      agent.chat (ask agent n step s).2.messages agent.definitions = .error e := by
  induction n with
  | zero => intro step s h; cases h
  | succ n ih =>
    intro step s
    rw [ask]
    cases hchat : agent.chat s.messages agent.definitions with
    | error e' =>
      intro h
      obtain rfl := Except.error.inj (Option.some.inj h)
      exact hchat
    | ok result =>
      dsimp only
      by_cases hcalls : result.tool_calls = []
      · rw [if_pos hcalls]
        intro h
        cases Option.some.inj h
      · rw [if_neg hcalls]
        exact ih (step + 1) _

/-- The run stopped because its steps were used up. -/
def Limited (r : Except Failure (AgentResult O)) : Prop :=
  ∃ message, r = .error (.AgentStepLimit message)

theorem limited_iff (agent : Agent O σ) (ctx : σ) (question : String) (n : ℕ) :
    Limited (run_agent agent ctx question n).1 ↔
      (ask agent n 1 (Conversation.opened question ctx)).1 = none := by
  unfold run_agent Limited
  rcases ask agent n 1 (Conversation.opened question ctx) with ⟨_ | (e | result), s⟩ <;> simp

theorem run_agent_conversation (agent : Agent O σ) (ctx : σ) (question : String) (n : ℕ) :
    (run_agent agent ctx question n).2 =
      (ask agent n 1 (Conversation.opened question ctx)).2 := by
  unfold run_agent
  rcases ask agent n 1 (Conversation.opened question ctx) with ⟨_ | (e | result), s⟩ <;> rfl

/-- **The limit only cuts off.** A run that came to an end comes to the same end under any larger
limit. It runs into its limit exactly if each of its answers, to the conversation that the shorter
runs leave, called tools. Any other failure is the client's own: no tool's exception gets out. -/
theorem agent_limit (agent : Agent O σ) (ctx : σ) (question : String) (n : ℕ) :
    (¬ Limited (run_agent agent ctx question n).1 → ∀ m, n ≤ m →
      run_agent agent ctx question m = run_agent agent ctx question n) ∧
    (Limited (run_agent agent ctx question n).1 ↔ ∀ k < n, ∃ result,
      agent.chat (run_agent agent ctx question k).2.messages agent.definitions = .ok result ∧
        result.tool_calls ≠ []) ∧
    ∀ e, (run_agent agent ctx question n).1 = .error (.raised e) →
      agent.chat (run_agent agent ctx question n).2.messages agent.definitions = .error e := by
  refine ⟨fun hended m hnm => ?_, ?_, fun e he => ?_⟩
  · rw [limited_iff] at hended
    unfold run_agent
    rw [ask_mono agent hnm _ hended]
    rcases hask : ask agent n 1 (Conversation.opened question ctx) with ⟨_ | (e | result), s⟩
    · rw [hask] at hended
      exact absurd rfl hended
    · rfl
    · rfl
  · rw [limited_iff, ask_none_iff]
    simp only [run_agent_conversation]
  · rw [run_agent_conversation]
    refine ask_error agent n 1 _ ?_
    unfold run_agent at he
    rcases hask : ask agent n 1 (Conversation.opened question ctx) with ⟨_ | (e' | result), s⟩
    · rw [hask] at he
      simp at he
    · rw [hask] at he
      obtain rfl := Failure.raised.inj (Except.error.inj he)
      rfl
    · rw [hask] at he
      cases he

end EnvMgr.Copilot
