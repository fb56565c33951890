import BindStream.Proofs.Channel.History

namespace BindStream

/-! A channel is cancelled exactly if some task has cancelled it. -/

variable {ρ σ : Type}

namespace Channel

variable {channel next : Channel ρ} {expired : Bool} {request : Request ρ}
variable {signals : List Signal} {reply : Reply ρ}

theorem Served.cancelled_iff (served : channel.Served expired request next signals reply) :
    next.cancelled = true ↔ channel.cancelled = true ∨ request = .cancel := by
  cases served with
  | taken takes | takeCancelled takes =>
      refine ⟨.inl, fun either => either.resolve_right ?_⟩
      rintro rfl
      cases takes
  | _ => simp_all

theorem Served.reply_of_cancel (served : channel.Served expired .cancel next signals reply) :
    reply = .done := by
  cases served with
  | cancelled | cancelledBefore => rfl
  | taken takes | takeCancelled takes => cases takes

end Channel

namespace System

variable {client : Client ρ σ} {system : System ρ σ}

theorem Run.cancelled_iff {capacity : Capacity} {jobs : List σ} {events : List (Event ρ)}
    (run : Run client (initial capacity jobs) events system) :
    system.channel.cancelled = true ↔ ∃ i, .completed i .cancel .done ∈ events := by
  refine run.invariant (motive := fun events system =>
    system.channel.cancelled = true ↔ ∃ i, .completed i .cancel .done ∈ events) ?_ ?_
  · simp [initial, Channel.empty]
  intro events system next event told progress
  cases progress with
  | call idle channel => simpa [channel] using told
  | giveBack holding channel => simpa [channel] using told
  | silent silent => simpa [silent.channel] using told
  | @complete i call expired channel signals reply next calling served nextChannel =>
      rw [nextChannel, served.cancelled_iff, told]
      simp only [Option.toList_some, List.mem_append, List.mem_singleton, Event.completed.injEq,
        exists_or]
      refine or_congr Iff.rfl ⟨fun asks => ?_, fun ⟨k, _, asks, _⟩ => asks.symm⟩
      rw [asks] at served
      exact ⟨i, rfl, asks.symm, served.reply_of_cancel.symm⟩

end System

end BindStream
