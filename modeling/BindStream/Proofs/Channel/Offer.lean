import BindStream.Proofs.Channel.Change
import BindStream.Proofs.Channel.Order

namespace BindStream

/-! What a channel has on offer for the requests that wait for it, and how an answered request
changes that. -/

variable {ρ : Type}

def Request.condition? : Request ρ → Option Condition
  | put _ _ => some .notFull
  | take _ => some .notEmpty
  | _ => none

/-- The replies that go with a signal: a take makes room, a put brings a row, and a cancellation is
told to all. -/
def Signal.ComesWith : Signal → Reply ρ → Prop
  | .one .notFull, .row _ => True
  | .one .notEmpty, .stored => True
  | .all _, .done => True
  | _, _ => False

namespace Capacity

/-- The free places beside some rows. Where room is unbounded none is counted, since no one waits
for one. -/
def free (capacity : Capacity) (size : Nat) : Nat := (capacity.rows?.map (· - size)).getD 0

variable {capacity : Capacity} {size : Nat}

theorem free_of_full (full : capacity.hasRoom size = false) : capacity.free size = 0 := by
  cases capacity with
  | unbounded => rfl
  | bounded rows positive => exact Nat.sub_eq_zero_of_le (by simpa [hasRoom, rows?] using full)

theorem free_of_room (room : capacity.hasRoom size = true) :
    capacity.free (size + 1) = 0 ∨ capacity.free (size + 1) + 1 ≤ capacity.free size := by
  cases capacity with
  | unbounded => exact .inl rfl
  | bounded rows positive =>
      have below : size < rows := by simpa [hasRoom, rows?] using room
      simp only [free, rows?, Option.map_some, Option.getD_some]
      omega

theorem free_pos (limited : capacity.rows? ≠ none) (room : capacity.hasRoom size = true) :
    0 < capacity.free size := by
  cases capacity with
  | unbounded => exact absurd rfl limited
  | bounded rows positive => exact Nat.sub_pos_of_lt (by simpa [hasRoom, rows?] using room)

theorem free_le (capacity : Capacity) (size : Nat) :
    capacity.free size ≤ capacity.free (size + 1) + 1 := by
  cases capacity with
  | unbounded => exact Nat.zero_le _
  | bounded rows positive =>
      simp only [free, rows?, Option.map_some, Option.getD_some]
      omega

end Capacity

namespace Channel

variable {channel next : Channel ρ} {expired : Bool} {request : Request ρ}
variable {signals : List Signal} {reply : Reply ρ} {condition : Condition}

theorem Moved.capacity (moved : channel.Moved next) : next.capacity = channel.capacity := by
  rcases moved with rfl | ⟨_, _, _, _, served⟩
  · rfl
  · exact served.capacity

theorem Blocked.bounded (blocked : channel.Blocked request condition) :
    condition = .notFull → channel.capacity.rows? ≠ none := by
  rintro rfl unbounded
  cases blocked with
  | put opened full =>
      rw [Capacity.hasRoom, unbounded] at full
      cases full

theorem Blocked.condition? (blocked : channel.Blocked request condition) :
    request.condition? = some condition := by
  cases blocked <;> rfl

/-- How many of the requests that wait for a condition the channel would serve, were it not
cancelled. -/
def available (channel : Channel ρ) : Condition → Nat
  | .notEmpty => channel.queue.length
  | .notFull => channel.capacity.free channel.queue.length

/-- How many of the requests that wait for a condition an open channel would serve. -/
def onOffer (channel : Channel ρ) (condition : Condition) : Nat :=
  if channel.cancelled then 0 else channel.available condition

theorem onOffer_of_cancelled (closed : channel.cancelled = true) :
    channel.onOffer condition = 0 := if_pos closed

theorem onOffer_of_open (opened : channel.cancelled = false) :
    channel.onOffer condition = channel.available condition :=
  if_neg (Bool.eq_false_iff.mp opened)

theorem Blocked.onOffer (blocked : channel.Blocked request condition) :
    channel.onOffer condition = 0 := by
  rw [onOffer_of_open blocked.opened]
  cases blocked with
  | put opened full => exact Capacity.free_of_full full
  | take opened empty => exact List.length_eq_zero_iff.mpr empty

theorem onOffer_pos (opened : channel.cancelled = false)
    (waits : request.condition? = some condition)
    (bounded : condition = .notFull → channel.capacity.rows? ≠ none)
    (served : channel.attempt request false ≠ .wait condition) :
    0 < channel.onOffer condition := by
  rw [onOffer_of_open opened]
  cases request with
  | put row within =>
      cases waits
      cases room : channel.capacity.hasRoom channel.queue.length with
      | true => exact Capacity.free_pos (bounded rfl) room
      | false => exact absurd (by simp [attempt, put, opened, room]) served
  | take within =>
      cases waits
      cases queue : channel.queue with
      | nil => exact absurd (by simp [attempt, take, opened, queue]) served
      | cons row rows =>
          rw [available, queue]
          exact Nat.succ_pos _
  | _ => cases waits

theorem available_push (row : ρ)
    (room : channel.capacity.hasRoom channel.queue.length = true) {waited : Bool}
    (waits : waited = true → condition = .notFull) :
    ({ channel with queue := channel.queue ++ [row] } : Channel ρ).available condition = 0 ∨
      ({ channel with queue := channel.queue ++ [row] } : Channel ρ).available condition +
          waited.toNat ≤
        channel.available condition + (condition == .notEmpty).toNat := by
  have one : waited.toNat ≤ 1 := waited.toNat_le
  cases condition with
  | notEmpty =>
      have idle : waited = false := Bool.eq_false_iff.mpr fun waiting => by cases waits waiting
      rw [idle]
      exact .inr (by simp [available])
  | notFull =>
      simp only [available, List.length_append, List.length_singleton]
      refine (Capacity.free_of_room room).imp_right fun less => ?_
      omega

theorem available_pop {row : ρ} {queue : List ρ} (oldest : channel.queue = row :: queue)
    {waited : Bool} (waits : waited = true → condition = .notEmpty) :
    ({ channel with queue := queue } : Channel ρ).available condition + waited.toNat ≤
      channel.available condition + (condition == .notFull).toNat := by
  have one : waited.toNat ≤ 1 := waited.toNat_le
  cases condition with
  | notEmpty =>
      simp only [available, oldest, List.length_cons]
      omega
  | notFull =>
      have idle : waited = false := Bool.eq_false_iff.mpr fun waiting => by cases waits waiting
      rw [idle]
      simpa [available, oldest] using channel.capacity.free_le queue.length

/-- An answered request adds no more to what is on offer than the signals that it sends, and
takes something away if it has waited for it. -/
theorem Served.onOffer (served : channel.Served expired request next signals reply)
    {waited : Bool} (waits : waited = true → request.condition? = some condition) :
    next.onOffer condition = 0 ∨
      next.onOffer condition + waited.toNat ≤
        channel.onOffer condition + (signals.contains (.one condition)).toNat := by
  cases closed : next.cancelled with
  | true => exact .inl (onOffer_of_cancelled closed)
  | false =>
      have kept (empty : waited = true → channel.available condition = 0)
          (opened : channel.cancelled = false) :
          channel.available condition = 0 ∨ channel.available condition + waited.toNat ≤
            channel.onOffer condition + 0 := by
        rw [onOffer_of_open opened]
        cases waited with
        | true => exact .inl (empty rfl)
        | false => exact .inr (Nat.le_refl _)
      rw [onOffer_of_open closed]
      cases served with
      | stored opened room =>
          rw [onOffer_of_open opened]
          have signal : (condition == .notEmpty) =
              [Signal.one .notEmpty].contains (.one condition) := by cases condition <;> rfl
          rw [← signal]
          exact available_push _ room fun waiting => (Option.some.inj (waits waiting)).symm
      | @taken request row queue takes oldest =>
          have opened : channel.cancelled = false := closed
          rw [onOffer_of_open opened]
          have signal : (condition == .notFull) =
              [Signal.one .notFull].contains (.one condition) := by cases condition <;> rfl
          rw [← signal]
          refine .inr (available_pop oldest fun waiting => ?_)
          have waits := waits waiting
          cases request with
          | take within => exact (Option.some.inj waits).symm
          | tryTake => cases waits
          | _ => cases takes
      | putTimedOut opened full elapsed =>
          refine kept (fun waiting => ?_) opened
          cases waits waiting
          exact Capacity.free_of_full full
      | takeTimedOut empty opened elapsed =>
          refine kept (fun waiting => ?_) opened
          cases waits waiting
          exact List.length_eq_zero_iff.mpr empty
      | absent empty opened => exact kept (fun waiting => by cases waits waiting) opened
      | inspected => exact kept (fun waiting => by cases waits waiting) closed
      | putCancelled before | takeCancelled takes empty before | cancelledBefore before =>
          rw [before] at closed
          cases closed
      | cancelled opened => cases closed

theorem Served.comesWith (served : channel.Served expired request next signals reply) :
    ∀ signal ∈ signals, signal.ComesWith reply := by
  cases served <;> simp [Signal.ComesWith]

theorem Served.cancelled_le (served : channel.Served expired request next signals reply) :
    next.cancelled.toNat ≤
      channel.cancelled.toNat + (signals.contains (.all condition)).toNat := by
  cases served <;> cases condition <;> simp_all

end Channel

end BindStream
