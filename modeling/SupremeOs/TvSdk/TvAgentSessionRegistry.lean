import SupremeOs.DomainModel.JsValue
import SupremeOs.Support.Machine
import SupremeOs.Support.OrderedMap

/-!
# The registry of television agents

An agent speaks for one device, in the session it was last bound with.  A
message is accepted if its agent is bound and not revoked, if it names the
device, if it names the session or none at all, and if its sequence number is
above the last accepted one.

The bindings are numbered, and what happens to them and what is accepted is
recorded.
-/

namespace SupremeOs.TvSdk

open Support DomainModel

/-- A message with what the registry reads of it; the rest is its content. -/
structure AgentMessage (Content : Type) where
  agentId : String
  deviceId : String
  sessionId : Option String
  sequenceNumber : Option JsNumber
  content : Content
deriving DecidableEq

/-- The number that is compared; a message without one has the lowest. -/
def AgentMessage.sequence {Content : Type} (message : AgentMessage Content) : JsNumber :=
  message.sequenceNumber.getD (.finite (-1))

inductive AgentAuthorizationRejection where
  | unknownAgent
  | deviceMismatch
  | unknownSession
  | revoked
  | staleOrDuplicateSequence

structure BoundAgent where
  deviceId : String
  sessionId : String
  revoked : Bool
  lastAcceptedSequence : JsNumber
  /-- The number of the binding. -/
  binding : Nat

inductive RegistryEvent (Content : Type) where
  | bound (agentId sessionId : String) (binding : Nat)
  | revoked (agentId : String)
  | unbound (agentId : String)
  | accepted (message : AgentMessage Content) (binding : Nat)

structure TvAgentSessionRegistry (Content : Type) where
  agents : OrderedMap String BoundAgent
  /-- How many bindings there have been. -/
  binds : Nat
  history : List (RegistryEvent Content)

namespace TvAgentSessionRegistry

variable {Content : Type}

def initial : TvAgentSessionRegistry Content := ⟨OrderedMap.empty, 0, []⟩

variable (registry : TvAgentSessionRegistry Content)

/-- Binding to another device is refused. -/
def bind (agentId deviceId sessionId : String) : TvAgentSessionRegistry Content :=
  if (registry.agents.get agentId).any fun existing => decide (existing.deviceId ≠ deviceId) then
    registry
  else
    { agents := registry.agents.set agentId
        ⟨deviceId, sessionId, false, .finite (-1), registry.binds⟩
      binds := registry.binds + 1
      history := registry.history ++ [.bound agentId sessionId registry.binds] }

def revoke (agentId : String) : TvAgentSessionRegistry Content :=
  { registry with
    agents :=
      match registry.agents.get agentId with
      | none => registry.agents
      | some bound => registry.agents.set agentId { bound with revoked := true }
    history := registry.history ++ [.revoked agentId] }

def unbind (agentId : String) : TvAgentSessionRegistry Content :=
  { registry with
    agents := registry.agents.delete agentId
    history := registry.history ++ [.unbound agentId] }

/-- The checks that come before the one of the sequence number. -/
def identify (message : AgentMessage Content) : Except AgentAuthorizationRejection BoundAgent :=
  match registry.agents.get message.agentId with
  | none => .error .unknownAgent
  | some bound =>
    if bound.revoked then .error .revoked
    else if bound.deviceId ≠ message.deviceId then .error .deviceMismatch
    else if message.sessionId.any fun sessionId => decide (sessionId ≠ bound.sessionId) then
      .error .unknownSession
    else .ok bound

def authorize (message : AgentMessage Content) :
    TvAgentSessionRegistry Content × Except AgentAuthorizationRejection Unit :=
  match registry.identify message with
  | .error rejection => (registry, .error rejection)
  | .ok bound =>
    if message.sequence.lessOrEqual bound.lastAcceptedSequence then
      (registry, .error .staleOrDuplicateSequence)
    else
      ({ registry with
        agents := registry.agents.set message.agentId
          { bound with lastAcceptedSequence := message.sequence }
        history := registry.history ++ [.accepted message bound.binding] }, .ok ())

theorem identify_eq_ok {registry : TvAgentSessionRegistry Content}
    {message : AgentMessage Content} {bound : BoundAgent}
    (identified : registry.identify message = .ok bound) :
    registry.agents.get message.agentId = some bound ∧ bound.revoked = false ∧
      ∀ sessionId ∈ message.sessionId, sessionId = bound.sessionId := by
  unfold identify at identified
  split at identified
  · simp at identified
  · rename_i found known
    split at identified
    · simp at identified
    split at identified
    · simp at identified
    split at identified
    · simp at identified
    · rename_i notRevoked _ session
      cases identified
      refine ⟨known, eq_false_of_ne_true notRevoked, ?_⟩
      intro sessionId named
      rw [Option.mem_def.mp named] at session
      simpa using session

end TvAgentSessionRegistry

inductive RegistryCall (Content : Type) where
  | bind (agentId deviceId sessionId : String)
  | revoke (agentId : String)
  | unbind (agentId : String)
  | authorize (message : AgentMessage Content)

/-- Calls of the registry, one after the other. -/
def agentRegistry {Content : Type} :
    Machine (TvAgentSessionRegistry Content) (RegistryCall Content) where
  step registry
    | .bind agentId deviceId sessionId => some (registry.bind agentId deviceId sessionId)
    | .revoke agentId => some (registry.revoke agentId)
    | .unbind agentId => some (registry.unbind agentId)
    | .authorize message => some (registry.authorize message).1

end SupremeOs.TvSdk
