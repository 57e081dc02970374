import HostProbe.Decimal.Integer

/-! # Retry policies

A policy bounds the attempts at an operation and says how long to wait after a failed one. Delays
are whole milliseconds below 2^64. The linear delay stops at that limit; the sum with the jitter starts
again from 0 beyond it. -/

namespace HostProbe

inductive RetryStrategy where
  | immediate
  | fixed
  | exponential
  | linear
  deriving DecidableEq, Repr

structure RetryPolicy where
  maxAttempts : UInt32
  strategy : RetryStrategy
  multiplier : Float
  initialDelay : UInt64
  maxDelay : UInt64
  deriving Repr

namespace RetryPolicy

def fixed (attempts : UInt32) (delay : UInt64) : RetryPolicy :=
  ⟨attempts, .fixed, 1.0, delay, delay⟩

def standard : RetryPolicy := ⟨3, .exponential, 2.0, 1000, 30000⟩

def delayLimit : Nat := UInt64.size - 1

def exponentialDelay (p : RetryPolicy) (index : Nat) : UInt64 :=
  (p.initialDelay.toFloat * Float.pow p.multiplier index.toFloat).toUInt64

def baseDelay (p : RetryPolicy) (attempt : Nat) : Nat :=
  match p.strategy with
  | .immediate => 0
  | .fixed => p.initialDelay.toNat
  | .exponential => (p.exponentialDelay (attempt - 1)).toNat
  | .linear => min (p.initialDelay.toNat * (attempt - 1 + 1)) delayLimit

def cappedDelay (p : RetryPolicy) (attempt : Nat) : Nat :=
  min (p.baseDelay attempt) p.maxDelay.toNat

def delay (p : RetryPolicy) (attempt sample : Nat) : Nat :=
  (p.cappedDelay attempt + min sample (p.cappedDelay attempt / 4)) % UInt64.size

def attemptLimit (p : RetryPolicy) : Nat := max 1 p.maxAttempts.toNat

end RetryPolicy

end HostProbe
