import AttemptLog.Instant
/-!
Trying again after a failure, with longer and longer waits.

The wait doubles after each failure, up to a greatest wait; a random part may be added to each. Spans of time are
bounded, as clocks represent them, and a wait beyond the bound is a fault of its own. A sleeper wakes up after thirty
years at the latest.
-/
namespace AttemptLog

/-- a span of time in nanoseconds; whole seconds fit into sixty-four bits -/
structure Span where
  nanos : Nat
  inRange : nanos < UInt64.size * secondNanos
  deriving DecidableEq

namespace Span

def ofNanos? (nanos : Nat) : Option Span :=
  if h : nanos < UInt64.size * secondNanos then some ⟨nanos, h⟩ else none

def ofMillis (millis : UInt64) : Span :=
  ⟨millis.toNat * 1000000, by
    have h := millis.toNat_lt_size
    unfold secondNanos
    omega⟩

/-- whole milliseconds, of which there may be more than fit into sixty-four bits -/
def millis (span : Span) : Nat := span.nanos / 1000000

def add? (a b : Span) : Option Span := ofNanos? (a.nanos + b.nanos)

def double? (span : Span) : Option Span := ofNanos? (span.nanos * 2)

def min (a b : Span) : Span := if b.nanos < a.nanos then b else a

def thirtyYears : Span := .ofMillis 946080000000

/-- the time that passes when this span is waited for: no sleep lasts longer than thirty years -/
def slept (span : Span) : Span := span.min thirtyYears

end Span

/-- how often and after what waits to try again; no call is made more than once if the number of calls is zero -/
structure Backoff where
  calls : Nat
  base : Span
  longest : Span
  /-- the greatest random part of a wait -/
  jitter : Option Span

namespace Backoff

def standard : Backoff := ⟨5, .ofMillis 20, .ofMillis 500, some (.ofMillis 50)⟩

/-- the policy for transactions, whose conflicts are soon over -/
def transaction : Backoff := ⟨3, .ofMillis 10, .ofMillis 100, some (.ofMillis 20)⟩

/-- the greatest random part in milliseconds, as a number of sixty-four bits -/
def jitterMillis (backoff : Backoff) : Nat := (backoff.jitter.map Span.millis).getD 0 % UInt64.size

/-- the wait with its random part; there is none if it is too long, or if no random number can be taken -/
def wait? (backoff : Backoff) (delay : Span) (drawn : UInt64) : Option Span :=
  match backoff.jitter with
  | none => some delay
  | some _ =>
    if backoff.jitterMillis = 0 then some delay
    else if backoff.jitterMillis + 1 = UInt64.size then none
    else delay.add? (.ofMillis (.ofNat (drawn.toNat % (backoff.jitterMillis + 1))))

/-- the delay after this one, before its random part; there is none if it cannot be doubled -/
def nextDelay? (backoff : Backoff) (delay : Span) : Option Span :=
  delay.double?.map fun double => double.min backoff.longest

/-- calls once more, and after a failure that may pass waits and goes on while calls are left; there is no result if
a wait cannot be computed -/
def retryFrom {m : Type → Type} [Monad m] {ε α : Type} (backoff : Backoff) (mayPass : ε → Bool) (draw : m UInt64)
    (pause : Span → m Unit) (call : m (Except ε α)) : Nat → Span → m (Option (Except ε α))
  | 0, _ => some <$> call
  | left + 1, delay => do
    match ← call with
    | .ok value => pure (some (.ok value))
    | .error error =>
      if !mayPass error then pure (some (.error error))
      else
        let drawn ← if backoff.jitterMillis = 0 then pure 0 else draw
        match backoff.wait? delay drawn with
        | none => pure none
        | some wait => do
          pause wait
          match backoff.nextDelay? delay with
          | none => pure none
          | some delay => retryFrom backoff mayPass draw pause call left delay

/-- calls until there is success, a failure that does not pass, or no call left -/
def retry {m : Type → Type} [Monad m] {ε α : Type} (backoff : Backoff) (mayPass : ε → Bool) (draw : m UInt64)
    (pause : Span → m Unit) (call : m (Except ε α)) : m (Option (Except ε α)) :=
  backoff.retryFrom mayPass draw pause call (backoff.calls - 1) backoff.base

/-- calls until there is success or no call left, as if every failure may pass -/
def retryAll {m : Type → Type} [Monad m] {ε α : Type} (backoff : Backoff) (draw : m UInt64) (pause : Span → m Unit)
    (call : m (Except ε α)) : m (Option (Except ε α)) :=
  backoff.retry (fun _ => true) draw pause call

end Backoff

end AttemptLog
