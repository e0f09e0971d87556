import FlexRic.E2ap.Ids
import FlexRic.Library.Threads
import FlexRic.Util.Assertion

/-! # The aperiodic channel

The threads of the RAN hand indications to the agent's loop over two channels
at once: the indication goes into a queue, and the decimal text of its request
id into a pipe whose reading end the loop watches.
-/

namespace FlexRic

open Assertion

/-- `aind_event_t`. The service model is known by its RAN function, and the data that it is to
    report by their address. -/
structure AindEvent where
  ricId : RicGenId
  sm : UInt16
  actionId : UInt8
  indData : UInt64
  deriving DecidableEq, Repr

/-- A call of `e2_async_event_agent`, at the section that it runs next. -/
inductive Producer where
  | push (e : AindEvent)
  | write (ricReqId : UInt32)
  deriving DecidableEq, Repr

/-- Where the loop is in the array that it took off the queue. -/
inductive AperiodicLoop where
  | idle
  /-- It hands `e` to the service model next. -/
  | report (e : AindEvent) (rest : List AindEvent)
  /-- It reads from the pipe next, once for the event that it has reported. -/
  | read (rest : List AindEvent)
  deriving DecidableEq, Repr

structure Channel where
  /-- The queue `aind`, with the oldest event first. -/
  aind : List AindEvent
  /-- The bytes in the pipe. -/
  pipe : List Char
  /-- Something was written since the loop was last told that the pipe is
      readable. The reading end is watched edge-triggered. -/
  edge : Bool
  producers : List Producer
  loop : AperiodicLoop

namespace Channel

def init : Channel where
  aind := []
  pipe := []
  edge := false
  producers := []
  loop := .idle

/-- `snprintf(str, num_char, "%u", ric_req_id)`. -/
def decimal (ricReqId : UInt32) : List Char := Nat.toDigits 10 ricReqId.toNat

/-- The next section of producer number `i`. -/
def produce (c : Channel) (i : Nat) : Channel :=
  match c.producers[i]? with
  | none => c
  | some (.push e) =>
      { c with
        aind := c.aind ++ [e]
        producers := advance c.producers i (some (.write e.ricId.ricReqId)) }
  | some (.write ricReqId) =>
      { c with
        pipe := c.pipe ++ decimal ricReqId
        edge := true
        producers := advance c.producers i none }

/-- The loop goes on with the array, or returns to waiting. -/
def loopOn : List AindEvent → AperiodicLoop
  | [] => .idle
  | e :: rest => .report e rest

/-- `aind_event`: the whole queue is taken into an array. -/
def aindEvent (c : Channel) : Checked Channel := do
  check (0 < c.aind.length) aindQueueEmpty
  pure { c with aind := [], edge := false, loop := loopOn c.aind }

/-- `consume_fd_async`: up to four bytes, and how many there were. -/
def consumeFdAsync (c : Channel) : Nat × Channel :=
  ((c.pipe.take 4).length, { c with pipe := c.pipe.drop 4 })

/-- The read at the end of a round of the `APERIODIC_INDICATION_EVENT` case. -/
def readPipe (c : Channel) : Checked Channel :=
  match c.loop with
  | .read rest => do
      let (rc, c) := c.consumeFdAsync
      check (rc ≠ 1) noBytesInPipe
      pure { c with loop := loopOn rest }
  | _ => pure c

end Channel

end FlexRic
