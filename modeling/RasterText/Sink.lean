import RasterText.Error

/-!
# Byte sinks

A sink takes bytes in calls.  A call may be interrupted, may take only part of what
it is offered, and fails once the sink is full.  `writeAll` repeats calls until
everything is taken: it tries again after an interruption, goes on after a partial
call, and gives up at a failure or when a call takes nothing.
-/

namespace RasterText

inductive WhenFull where
  | fail (failure : IoFailure)
  | takeNothing
deriving DecidableEq

structure Sink where
  /-- The most bytes that one call takes. -/
  chunk : Option Nat := none
  /-- The most bytes that all calls take together. -/
  limit : Option Nat := none
  whenFull : WhenFull := .fail .brokenPipe
  /-- How flushing fails, if it does. -/
  flushFailure : Option IoFailure := none
  /-- How many of the next calls are interrupted. -/
  interrupts : Nat := 0
  accepted : Array UInt8 := #[]
  flushes : Nat := 0

inductive WriteOutcome where
  | interrupted
  | failed (failure : IoFailure)
  | took (count : Nat)
deriving DecidableEq

namespace Sink

def isFull (sink : Sink) : Bool :=
  match sink.limit with
  | none => false
  | some limit => decide (limit ≤ sink.accepted.size)

/-- The part of the offered bytes that one call takes while the sink is not full. -/
def portion (sink : Sink) (bytes : List UInt8) : List UInt8 :=
  let chunked := match sink.chunk with
    | none => bytes
    | some chunk => bytes.take chunk
  match sink.limit with
  | none => chunked
  | some limit => chunked.take (limit - sink.accepted.size)

/-- One call: an interruption comes first, then a full sink, then the bytes taken. -/
def write (sink : Sink) (bytes : List UInt8) : Sink × WriteOutcome :=
  if 0 < sink.interrupts then ({ sink with interrupts := sink.interrupts - 1 }, .interrupted)
  else if sink.isFull then
    match sink.whenFull with
    | .fail failure => (sink, .failed failure)
    | .takeNothing => (sink, .took 0)
  else
    let taken := sink.portion bytes
    ({ sink with accepted := sink.accepted ++ taken }, .took taken.length)

theorem interrupts_of_interrupted {sink next : Sink} {bytes : List UInt8}
    (call : sink.write bytes = (next, .interrupted)) : next.interrupts < sink.interrupts := by
  unfold write at call
  split at call
  · simp only [Prod.mk.injEq, and_true] at call
    rw [← call]
    simp only
    omega
  · split at call
    · split at call <;> simp at call
    · simp at call

theorem interrupts_of_took {sink next : Sink} {bytes : List UInt8} {count : Nat}
    (call : sink.write bytes = (next, .took count)) : next.interrupts = sink.interrupts := by
  unfold write at call
  split at call
  · simp at call
  · split at call
    · split at call
      · simp at call
      · simp only [Prod.mk.injEq] at call
        rw [← call.1]
    · simp only [Prod.mk.injEq] at call
      rw [← call.1]

/-- Repeated calls until all bytes are taken, or the failure that stopped them. -/
def writeAll (sink : Sink) (bytes : List UInt8) : Sink × Option IoFailure :=
  match bytes with
  | [] => (sink, none)
  | byte :: rest =>
    match call : sink.write (byte :: rest) with
    | (next, .interrupted) =>
      have := interrupts_of_interrupted call
      next.writeAll (byte :: rest)
    | (next, .failed failure) => (next, some failure)
    | (next, .took 0) => (next, some .writeZero)
    | (next, .took (count + 1)) =>
      have := interrupts_of_took call
      next.writeAll (rest.drop count)
termination_by sink.interrupts + bytes.length
decreasing_by
  · omega
  · simp only [List.length_drop, List.length_cons]
    omega

def flush (sink : Sink) : Sink × Option IoFailure :=
  ({ sink with flushes := sink.flushes + 1 }, sink.flushFailure)

end Sink

end RasterText
