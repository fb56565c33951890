namespace BindStream

/-! A bounded, cancellable first-in first-out hand-off of rows: the state behind its lock, and
what each request does to it while it holds the lock. -/

/-- Room for a positive number of rows, or for any number. -/
inductive Capacity
  | unbounded
  | bounded (rows : Nat) (positive : 0 < rows)
  deriving DecidableEq, Repr

namespace Capacity

/-- Zero stands for any number. -/
def ofNat : Nat → Capacity
  | 0 => unbounded
  | n + 1 => bounded (n + 1) (Nat.succ_pos n)

def standard : Capacity := ofNat 64

def rows? : Capacity → Option Nat
  | unbounded => none
  | bounded rows _ => some rows

def hasRoom (capacity : Capacity) (size : Nat) : Bool :=
  capacity.rows?.all (size < ·)

end Capacity

inductive ChannelError
  | cancelled
  | timedOut
  deriving DecidableEq, Repr

def ChannelError.message : ChannelError → String
  | cancelled => "Result channel was cancelled"
  | timedOut => "Timed out waiting on result channel"

structure Channel (ρ : Type) where
  capacity : Capacity
  /-- The rows that wait to be taken, oldest first. -/
  queue : List ρ
  cancelled : Bool
  deriving DecidableEq, Repr

def Channel.empty {ρ : Type} (capacity : Capacity) : Channel ρ := ⟨capacity, [], false⟩

inductive Condition
  | notEmpty
  | notFull
  deriving DecidableEq, Repr

inductive Signal
  | one (condition : Condition)
  | all (condition : Condition)
  deriving DecidableEq, Repr

/-- What a task asks of a channel; `within` bounds how long it waits. -/
inductive Request (ρ : Type)
  | put (row : ρ) (within : Option Nat)
  | take (within : Option Nat)
  | tryTake
  | cancel
  | inspect
  deriving DecidableEq, Repr

def Request.within? {ρ : Type} : Request ρ → Option Nat
  | put _ within => within
  | take within => within
  | _ => none

inductive Reply (ρ : Type)
  | stored
  /-- A refused row is handed back. -/
  | refused (row : ρ) (cause : ChannelError)
  | row (row : ρ)
  | failed (cause : ChannelError)
  | absent
  | done
  | status (size : Nat) (cancelled : Bool)
  deriving DecidableEq, Repr

/-- What a request comes to while it holds the lock: a reply, with the signals to send once the
lock is free, or a wait. -/
inductive Verdict (ρ : Type)
  | reply (channel : Channel ρ) (signals : List Signal) (reply : Reply ρ)
  | wait (condition : Condition)
  deriving DecidableEq, Repr

namespace Channel

variable {ρ : Type}

/-- A put looks for a cancellation first, then for room, and gives up last. -/
def put (channel : Channel ρ) (row : ρ) (expired : Bool) : Verdict ρ :=
  if channel.cancelled then .reply channel [] (.refused row .cancelled)
  else if channel.capacity.hasRoom channel.queue.length then
    .reply { channel with queue := channel.queue ++ [row] } [.one .notEmpty] .stored
  else if expired then .reply channel [] (.refused row .timedOut)
  else .wait .notFull

/-- A take looks for a row first, so that a cancelled channel is emptied. -/
def take (channel : Channel ρ) (expired : Bool) : Verdict ρ :=
  match channel.queue with
  | row :: queue => .reply { channel with queue := queue } [.one .notFull] (.row row)
  | [] =>
    if channel.cancelled then .reply channel [] (.failed .cancelled)
    else if expired then .reply channel [] (.failed .timedOut)
    else .wait .notEmpty

def tryTake (channel : Channel ρ) : Verdict ρ :=
  match channel.queue with
  | row :: queue => .reply { channel with queue := queue } [.one .notFull] (.row row)
  | [] =>
    if channel.cancelled then .reply channel [] (.failed .cancelled)
    else .reply channel [] .absent

def cancel (channel : Channel ρ) : Verdict ρ :=
  if channel.cancelled then .reply channel [] .done
  else .reply { channel with cancelled := true } [.all .notEmpty, .all .notFull] .done

def inspect (channel : Channel ρ) : Verdict ρ :=
  .reply channel [] (.status channel.queue.length channel.cancelled)

/-- One look at the channel; `expired` says that the time to wait is over. -/
def attempt (channel : Channel ρ) (request : Request ρ) (expired : Bool) : Verdict ρ :=
  match request with
  | .put row _ => channel.put row expired
  | .take _ => channel.take expired
  | .tryTake => channel.tryTake
  | .cancel => channel.cancel
  | .inspect => channel.inspect

end Channel

end BindStream
