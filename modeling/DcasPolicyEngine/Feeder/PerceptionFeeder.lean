import DcasPolicyEngine.Bridge.Loop

/-!
# The perception feeder

`perception_feeder.py` writes the perception of the driver to the shared memory that the bridge
reads, first the sample and then a sequence number. `start` is `main` up to its loop and `iterate`
is one iteration of the loop. What `poll` and the clock return is the input of an iteration.
`perceptionFeeder` is the machine of both, in which a restart is another start.
-/

namespace DcasPolicyEngine

/-! ## Shared memory -/

/-- `PerceptionToDcasSample` with the fields that the bridge does not read. -/
structure PerceptionRecord extends PerceptionToDcasSample where
  timestampUs : UInt64 := 0
  reserved : UInt32 := 0
  deriving DecidableEq

/-- The part of the shared memory that the feeder writes. -/
structure PerceptionShm where
  perceptionToDcas : PerceptionRecord := {}
  perceptionSeq : UInt32 := 0

/-- `struct.error`, for a number outside the range of the format. -/
structure StructError where
  value : ℤ
  deriving DecidableEq

/-- `struct.pack('<I', value)`. -/
def packUInt32 (value : ℤ) : Except StructError UInt32 :=
  if 0 ≤ value ∧ value ≤ 0xFFFFFFFF then .ok (UInt32.ofNat value.toNat) else .error ⟨value⟩

/-- `_REASON_MAP`. -/
def reasonMap : String → Option UInt32
  | "none" => some 0
  | "phone" => some 1
  | "drowsy" => some 2
  | "unresponsive" => some 3
  | "intoxicated" => some 4
  | "unknown" => some 5
  | "blocked_camera" => some 6
  | _ => none

/-- `_read_seq`. -/
def readSeq (buf : PerceptionShm) : ℤ := buf.perceptionSeq.toNat

/-- `_write`: what it returns or raises, and the memory that it leaves. -/
def write (buf : PerceptionShm) (isAttentive cameraBlocked : Bool) (reason : String)
    (timestampUs : UInt64) (seq : ℤ) : Except StructError Unit × PerceptionShm :=
  let buf :=
    { buf with
      perceptionToDcas :=
        { timestampUs := timestampUs
          isAttentive := if isAttentive then 1 else 0
          cameraBlocked := if cameraBlocked then 1 else 0
          reason := (reasonMap reason).getD 5
          reserved := 0 } }
  -- the sample is in the memory when the number is packed
  match packUInt32 seq with
  | .ok packed => (.ok (), { buf with perceptionSeq := packed })
  | .error error => (.error error, buf)

/-! ## The process -/

/-- A message of the subscriber. -/
structure PerceptionMessage where
  isAttentive : Bool := true
  cameraBlocked : Bool := false
  reason : String := "none"

/-- What one iteration reads: the message, if there is one, and the clock. -/
structure Poll where
  msg : Option PerceptionMessage := none
  nowUs : UInt64 := 0

/-- The shared memory and the variable `seq`, which exists while the process runs. -/
structure PerceptionFeeder where
  buf : PerceptionShm
  seq : Option ℤ := none

namespace PerceptionFeeder

/-- `main` up to its loop. -/
def start (buf : PerceptionShm) : PerceptionFeeder :=
  { buf := buf, seq := some (max (readSeq buf + 1) 1) }

/-- The number for the next message. -/
def advanceSeq (seq : ℤ) : ℤ :=
  let seq := seq + 1
  if seq > 0xFFFFFFFF then 1 else seq

/-- One iteration of the loop. An error ends the process. -/
def iterate (self : PerceptionFeeder) (poll : Poll) :
    Option (Except StructError Unit) × PerceptionFeeder :=
  match self.seq, poll.msg with
  | some seq, some msg =>
      match write self.buf msg.isAttentive msg.cameraBlocked msg.reason poll.nowUs seq with
      | (.ok (), buf) => (some (.ok ()), { buf := buf, seq := some (advanceSeq seq) })
      | (.error error, buf) => (some (.error error), { buf := buf, seq := none })
  | _, _ => (none, self)

end PerceptionFeeder

/-- A start of the process, or an iteration of its loop. -/
inductive FeederCall where
  | start
  | iterate (poll : Poll)

/-- The feeder as a machine. An output is the result of `_write` for a handled message. -/
def perceptionFeeder :
    Machine PerceptionFeeder FeederCall (Option (Except StructError Unit)) where
  step
    | self, .start => (none, PerceptionFeeder.start self.buf)
    | self, .iterate poll => self.iterate poll

/-- One call of the feeder within a run. -/
abbrev FeederEvent := Machine.Event PerceptionFeeder FeederCall (Option (Except StructError Unit))

/-- The calls of one process from its start to the next one. -/
def sessionCalls (polls : List Poll) : List FeederCall := .start :: polls.map .iterate

/-- The messages among the polls. -/
def messageCount (polls : List Poll) : ℕ := polls.countP fun poll => poll.msg.isSome

end DcasPolicyEngine
