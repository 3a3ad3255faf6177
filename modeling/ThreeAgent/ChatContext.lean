/-
The bounded context of a conversation (`chat_context.py`): the eligible
messages, the compaction of one, and the walk that packs the newest of them
into the characters allowed.

The classification of the request only gives the mode, the reason and the
language of the plan; its patterns are left to the parameter `classify`.
-/
import ThreeAgent.Lib.GreedyWalk
import ThreeAgent.Lib.Lines
import ThreeAgent.Lib.Runtime

namespace ThreeAgent.ChatContext

open PyText PyJson

structure ConversationContextPlan where
  mode : String
  reason : String
  text : String
  messageCount : Nat
  sourceChars : Nat
  languageHint : String := ""
  deriving DecidableEq, Repr

def contextModeStandalone : String := "standalone"
def contextModeFollowUp : String := "follow_up"
def contextModeContinuity : String := "continuity"

section Messages

variable {F : Type} [PyRuntime F]

/-- `str(raw.get("status") or "completed")`. -/
def statusOf (raw : Json F) : String :=
  match raw.get? "status" with
  | some v => if v.truthy then v.toStr else "completed"
  | none => "completed"

/-- `str(raw.get("content") or "").strip()`. -/
def contentOf (raw : Json F) : String := strip (Json.textOr (raw.get? "content"))

def roleOf (raw : Json F) : String := Json.textOr (raw.get? "role")

/-- `_eligible_messages`. -/
def eligibleMessages (messages : List (Json F)) (currentJobId : String) : List (Json F) :=
  messages.filter fun raw =>
    (roleOf raw = "user" || roleOf raw = "assistant") &&
    !(currentJobId ≠ "" && Json.textOr (raw.get? "job_id") = currentJobId) &&
    statusOf raw = "completed" &&
    contentOf raw ≠ ""

end Messages

def compactionMarker : String := "\n…[older turn compacted]…\n"

/-- `_compact`. -/
def compact (text : String) (limit : Int) : String :=
  let body := (strip text).toList
  let maximum := (max 80 limit).toNat
  if body.length ≤ maximum then strip text
  else
    let remaining := maximum - compactionMarker.toList.length
    let front := max 32 (remaining / 2)
    let tail := max 32 (remaining - front)
    String.ofList (rstripList (body.take front)) ++ compactionMarker ++
      String.ofList ((body.drop (body.length - tail)).dropWhile isSpace)

/-- A packed message: its role, its compacted body and the length of its content. -/
structure PackedTurn where
  role : String
  body : String
  sourceChars : Nat
  deriving DecidableEq, Repr

def headerOf (role : String) : String := "[" ++ role ++ "]\n"

/-- The variables of the packing loop. -/
structure Packing where
  used : Int := 0
  packedReversed : List PackedTurn := []
  deriving DecidableEq, Repr

/-- The limits of the packing: the characters of the text and those of one message. -/
structure PackLimits where
  totalBudget : Int
  perMessageLimit : Int
  deriving DecidableEq, Repr

def packLimits (maxChars perMessageChars : Int) : PackLimits :=
  let totalBudget := max 80 maxChars
  ⟨totalBudget, max 80 (min totalBudget perMessageChars)⟩

section Pack

variable {F : Type} [PyRuntime F]

def promptRole (item : Json F) : String := if roleOf item = "user" then "PRIOR USER" else "PRIOR ASSISTANT"

/-- `separator`. -/
def Packing.separator (p : Packing) : Int := if p.packedReversed = [] then 0 else 2

/-- `available`: what is left for the body of a message. -/
def available (limits : PackLimits) (p : Packing) (item : Json F) : Int :=
  limits.totalBudget - p.used - p.separator - (headerOf (promptRole item)).toList.length

/-- `body`. -/
def bodyOf (limits : PackLimits) (p : Packing) (item : Json F) : String :=
  compact (contentOf item) (min limits.perMessageLimit (available limits p item))

/-- One iteration of the packing loop, `none` where it continues with the next message. -/
def packStep (limits : PackLimits) (p : Packing) (item : Json F) : Option Packing :=
  let role := promptRole item
  if available limits p item < 80 then none
  else
    let body := bodyOf limits p item
    let cost := (headerOf role).toList.length + body.toList.length + p.separator
    if limits.totalBudget < p.used + cost then none
    else some ⟨p.used + cost, p.packedReversed ++ [⟨role, body, (contentOf item).toList.length⟩]⟩

/-- The packing loop. -/
def packing (limits : PackLimits) (selected : List (Json F)) : Packing :=
  GreedyWalk.walk (packStep limits) {} selected.reverse

end Pack

/-- `"\n\n".join(f"[{role}]\n{body}" …)`. -/
def render (packed : List PackedTurn) : String :=
  String.ofList ("\n\n".toList.intercalate (packed.map fun turn => (headerOf turn.role ++ turn.body).toList))

section Build

variable {F : Type} [PyRuntime F]

/-- `eligible[-message_limit:]`. -/
def selectedMessages (eligible : List (Json F)) (maxMessages : Int) : List (Json F) :=
  eligible.rtake (max 1 (min 24 maxMessages)).toNat

/-- `build_continuity_context`. -/
def buildContinuityContext (classify : String → String × String × String) (messages : List (Json F)) (currentRequest : String)
    (currentJobId : String) (maxChars maxMessages perMessageChars : Int) : ConversationContextPlan :=
  let (explicitMode, explicitReason, languageHint) := classify currentRequest
  let eligible := eligibleMessages messages currentJobId
  if eligible = [] then
    { mode := if explicitMode = contextModeFollowUp then contextModeFollowUp else contextModeStandalone
      reason := if explicitMode = contextModeFollowUp then explicitReason else "no_prior_completed_turn"
      text := "", messageCount := 0, sourceChars := 0, languageHint }
  else
    let packed := (packing (packLimits maxChars perMessageChars) (selectedMessages eligible maxMessages)).packedReversed.reverse
    { mode := if explicitMode = contextModeFollowUp then contextModeFollowUp else contextModeContinuity
      reason := if explicitMode = contextModeFollowUp then explicitReason else "same_conversation_recent_turns"
      text := render packed
      messageCount := packed.length
      sourceChars := (packed.map PackedTurn.sourceChars).sum
      languageHint }

end Build

end ThreeAgent.ChatContext
