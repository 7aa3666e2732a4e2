import AwsPlatform.Endpoint

/-! The endpoint capability negotiator as a three-state machine, which the two statics of
`platform_config_endpoint` implement. -/
namespace AwsPlatform

inductive NegotiationState where
  | unconfigured
  | configuredOrdered
  | configuredUnordered
  deriving DecidableEq, Repr

/-- How an endpoint answers the request for 128-byte in-order delivery. -/
inductive Capability where
  | set
  | unsupported
  | failed
  deriving DecidableEq, Repr

inductive Verdict where
  | proceed
  | fail
  deriving DecidableEq, Repr

/-- One call as the negotiator sees it: the next state and the verdict on the call, given whether
the P5 + RDMA exemption applies and how the endpoint answers. The first answer fixes the policy;
an ordered domain fails every endpoint that does not set the option again. -/
def NegotiationState.next : NegotiationState → Bool → Capability → NegotiationState × Verdict
  | .unconfigured, true, _ => (.configuredUnordered, .proceed)
  | .unconfigured, false, .set => (.configuredOrdered, .proceed)
  | .unconfigured, false, .unsupported => (.configuredUnordered, .proceed)
  | .unconfigured, false, .failed => (.unconfigured, .fail)
  | .configuredOrdered, _, .set => (.configuredOrdered, .proceed)
  | .configuredOrdered, _, _ => (.configuredOrdered, .fail)
  | .configuredUnordered, _, _ => (.configuredUnordered, .proceed)

/-- Whether the call asks the endpoint at all: not under the exemption, and not once unordered. -/
def NegotiationState.asks : NegotiationState → Bool → Bool
  | .unconfigured, p5 => !p5
  | .configuredOrdered, _ => true
  | .configuredUnordered, _ => false

/-- The machine over a run; `none` is a call that never reached the negotiation. -/
def NegotiationState.run (state : NegotiationState) : List (Option (Bool × Capability)) →
    NegotiationState
  | [] => state
  | none :: rest => state.run rest
  | some (p5, answer) :: rest => (state.next p5 answer).1.run rest

def Process.negotiation (s : Process) : NegotiationState :=
  if !s.ncclProtoConfigured then .unconfigured
  else if s.needOrdering then .configuredOrdered else .configuredUnordered

/-- An endpoint's `fi_setopt` answer: set, unsupported, or an error. -/
def classify (ret : Int) : Capability :=
  if ret = -FI_EOPNOTSUPP ∨ ret = -FI_ENOPROTOOPT then .unsupported
  else if ret ≠ 0 then .failed else .set

/-- The endpoint's answer for `optname`; an option the build does not declare is unsupported. -/
def capability (b : Build) (ep : Endpoint) : Option EpOption → Capability
  | some opt => if b.declWriteInorder then classify (ep.setopt opt) else .unsupported
  | none => .unsupported

/-- The exemption in state `s`: `NCCL_PROTO` unset, the RDMA protocol, and the identity that
`get_platform_type` reports is `p5.48xlarge`. -/
def p5Exempt (w : World) (protocol : String) (s : Process) : Bool :=
  (s.env "NCCL_PROTO").isNone && strcaseEq "RDMA" protocol &&
    match (getPlatformType w).run s with
    | .ok (some type, _) => strEq type "p5.48xlarge"
    | _ => false

def ExtCall.setsInorder : ExtCall → Bool
  | .fiSetopt .sendrecvInorderAligned128Bytes _ | .fiSetopt .writeInorderAligned128Bytes _ => true
  | _ => false

/-- The in-order `fi_setopt` calls made so far. -/
def Process.inorderSetopts (s : Process) : Nat := s.calls.countP ExtCall.setsInorder

/-- The exemption only turns an unconfigured domain unordered; past it, the machine behaves as
if the exemption did not apply. -/
theorem NegotiationState.next_exempt (state : NegotiationState) (p5 : Bool) (answer : Capability) :
    (if p5 then (if state = .unconfigured then .configuredUnordered else state) else state).next
      false answer = state.next p5 answer := by
  cases state <;> cases p5 <;> cases answer <;> rfl

theorem NegotiationState.asks_exempt (state : NegotiationState) (p5 : Bool) :
    (if p5 then (if state = .unconfigured then .configuredUnordered else state) else state).asks
      false = state.asks p5 := by
  cases state <;> cases p5 <;> rfl

/-- The machine moves a domain to the unordered policy only from the unconfigured state, under
the exemption or on an unsupported answer. -/
theorem NegotiationState.next_unordered {state : NegotiationState} {p5 : Bool}
    {answer : Capability} (moved : (state.next p5 answer).1 = .configuredUnordered) :
    state = .configuredUnordered ∨ state = .unconfigured ∧ (p5 = true ∨ answer = .unsupported) := by
  cases state <;> cases p5 <;> cases answer <;> simp_all [NegotiationState.next]

/-- The machine never leaves a configured state. -/
theorem NegotiationState.run_configured {state : NegotiationState}
    (configured : state ≠ .unconfigured) : ∀ inputs, state.run inputs = state
  | [] => rfl
  | none :: rest => NegotiationState.run_configured configured rest
  | some (p5, answer) :: rest => by
    have stays : (state.next p5 answer).1 = state := by
      cases state with
      | unconfigured => exact absurd rfl configured
      | configuredOrdered => cases answer <;> rfl
      | configuredUnordered => rfl
    rw [NegotiationState.run, stays, NegotiationState.run_configured configured rest]

theorem Process.negotiation_unconfigured {s : Process} (state : s.negotiation = .unconfigured) :
    s.ncclProtoConfigured = false := by
  cases configured : s.ncclProtoConfigured
  · rfl
  · cases need : s.needOrdering <;> simp [Process.negotiation, configured, need] at state

end AwsPlatform
