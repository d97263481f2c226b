import ProfilePlatform.Primitives

/-! The outbound mail ports: the intent, its durable state and the provider's outcome. -/

set_option autoImplicit false

namespace ProfilePlatform.Ports

structure CommandExecutionEvidence where
  idempotencyKey : IdempotencyKey
  payloadFingerprint : PayloadFingerprint
  auditEventId : AuditEventId
  outboxEventId : OutboxEventId
  now : UnixMillis
  idempotencyExpiresAt : UnixMillis
  deriving DecidableEq

def maxProviderMessageReferenceBytes : Nat := 512

def ProviderMessageReference.accepts (value : String) : Bool :=
  value ≠ "" && (utf8Bytes value).length ≤ maxProviderMessageReferenceBytes &&
    value.toList.all fun character => 32 ≤ character.toNat && character.toNat ≠ 127 &&
      (character.toNat < 128 || 160 ≤ character.toNat)

structure ProviderMessageReference where
  asStr : String
  accepted : ProviderMessageReference.accepts asStr = true
  deriving DecidableEq

structure OutboundMailSourceReference where
  bindingId : MailboxBindingId
  providerReference : ProviderMessageReference
  deriving DecidableEq

inductive OutboundMailOperation where
  | new
  | reply (source : OutboundMailSourceReference)
  | replyAll (source : OutboundMailSourceReference)
  | forward (source : OutboundMailSourceReference)
  deriving DecidableEq

def OutboundMailOperation.source : OutboundMailOperation → Option OutboundMailSourceReference
  | .new => none
  | .reply source | .replyAll source | .forward source => some source

def OutboundMailOperation.kindCode : OutboundMailOperation → String
  | .new => "NEW"
  | .reply _ => "REPLY"
  | .replyAll _ => "REPLY_ALL"
  | .forward _ => "FORWARD"

/-- The routing part of the message; only the provider reads the rest. -/
structure OutboundMailIntent where
  clientId : ClientId
  bindingId : MailboxBindingId
  operation : OutboundMailOperation
  deriving DecidableEq

inductive OutboundMailInputError where
  | sourceBindingMismatch
  deriving DecidableEq, Repr

def OutboundMailIntent.validateSourceBinding (self : OutboundMailIntent) :
    Except OutboundMailInputError Unit :=
  if self.operation.source.any fun source => source.bindingId ≠ self.bindingId then
    .error .sourceBindingMismatch
  else .ok ()

inductive OutboundMailIntentState where
  | pending | dispatching | retryable | sent | ambiguous | rejected
  deriving DecidableEq, Repr

structure OutboundMailIntentReceipt where
  intentId : OutboxEventId
  state : OutboundMailIntentState
  attemptCount : Nat
  providerMessageReference : Option ProviderMessageReference
  deriving DecidableEq

inductive OutboundMailReserveDecision where
  | reserved
  | existing (receipt : OutboundMailIntentReceipt)
  | conflict
  deriving DecidableEq

inductive OutboundMailClaimDecision where
  | claimed (attempt : Nat)
  | existing (receipt : OutboundMailIntentReceipt)
  deriving DecidableEq

inductive OutboundMailProviderOutcome where
  | sent (providerMessageReference : Option ProviderMessageReference)
  | retryableNotSent
  | rejected
  | ambiguous
  deriving DecidableEq

inductive OutboundMailIntentPortErrorClass where
  | notFound | conflict | integrityFailure | internalFailure | dependencyUnavailable
  deriving DecidableEq, Repr

inductive OutboundMailProviderPortErrorClass where
  | dependencyUnavailable | internalFailure
  deriving DecidableEq, Repr

inductive ClientMailboxAccessPortErrorClass where
  | integrityFailure | dependencyUnavailable
  deriving DecidableEq, Repr

end ProfilePlatform.Ports
