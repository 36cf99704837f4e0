import Mathlib.Data.List.Infix
import Sluice.Proofs.Forward.Step

/-!
# What passes through a forwarder

A forwarder neither loses nor invents bytes. This file keeps a record of what its source delivers and
what its destination takes, and shows that the record fits what the forwarder is busy with.

* `Traffic` is the record, `Traffic.note` what an action adds to it;
* `Traffic.Flows` relates them while the forwarder works, `Traffic.Concluded` after its work has
  ended;
* `Traffic.Fits.step`: whatever happens to a forwarder, its record goes on to fit.
-/

namespace Sluice

open Net (IoFault)

/-- How a source stopped. -/
inductive SourceEnd where
  /-- It was at its end. -/
  | eof
  /-- It failed. -/
  | failed (fault : IoFault)
deriving DecidableEq

/-- How the work of a forwarder ends when its source stops after so many bytes. -/
def SourceEnd.outcome (total : ℕ) : SourceEnd → Outcome
  | .eof => .ok total
  | .failed fault => .error (.io fault)

/-- What has passed through a forwarder. -/
structure Traffic where
  /-- The bytes that the source delivered. -/
  read : List UInt8 := []
  /-- The bytes that the destination took. -/
  written : List UInt8 := []
  /-- How the source stopped, if it has. -/
  sourceEnd : Option SourceEnd := none
  /-- How many times the destination was closed. -/
  closings : ℕ := 0
deriving DecidableEq

/-- The bytes of a stage that were read and are still to be written. -/
def Stage.pending : Stage → List UInt8
  | .paying chunk _ _ => chunk
  | .writing _ rest => rest
  | _ => []

/-- The size of the chunk of a stage. -/
def Stage.size : Stage → ℕ
  | .paying chunk _ _ => chunk.length
  | .writing size _ => size
  | _ => 0

namespace Traffic

variable {t : Traffic} {f : Forward} {limiters : List Limiter} {cancelled : Bool} {now : ℕ}
  {action : Forward.Action} {move : Forward.Move} {total size closings : ℕ}
  {pending : List UInt8} {outcome : Outcome}

/-- The record after an action of the forwarder. -/
def note (t : Traffic) (f : Forward) : Forward.Action → Traffic
  | .received [] => { t with sourceEnd := some .eof }
  | .received bytes => { t with read := t.read ++ bytes }
  | .readFailed fault => { t with sourceEnd := some (.failed fault) }
  | .took count => { t with written := t.written ++ f.stage.pending.take count }
  | .shut _ => { t with closings := t.closings + 1 }
  | _ => t

theorem note_received {bytes : List UInt8} (h : bytes ≠ []) :
    t.note f (.received bytes) = { t with read := t.read ++ bytes } := by
  obtain ⟨byte, rest, rfl⟩ := List.exists_cons_of_ne_nil h
  rfl

theorem note_took {rest : List UInt8} {count : ℕ} (h : f.stage = .writing size rest) :
    t.note f (.took count) = { t with written := t.written ++ rest.take count } := by
  simp [note, h, Stage.pending]

/-- The destination is handed the bytes that are on record. -/
theorem written_note (h : f.step limiters cancelled now action = some move) :
    (t.note f action).written = t.written ++ move.delivered := by
  cases Forward.stepped_of_step h with
  | received hstage hne hle => simp [note_received hne]
  | tookNone hstage => simp [note_took hstage]
  | tookSome hstage hpos hlt => rw [note_took hstage]
  | tookAll hstage => simp [note_took hstage]
  | _ => simp [note]

/-- While a forwarder works, the bytes read are the bytes written and those pending. It has counted
all of them but a chunk. -/
structure Flows (t : Traffic) (total size : ℕ) (pending : List UInt8) : Prop where
  read_eq : t.read = t.written ++ pending
  length_read : t.read.length = total + size
  length_pending_le : pending.length ≤ size
  size_le : size ≤ chunkSize
  sourceEnd_eq : t.sourceEnd = none
  closings_eq : t.closings = 0

/-- After the work of a forwarder has ended, what was written is the beginning of what was read: all
of it if the source stopped, whether at its end or with a fault. -/
structure Concluded (t : Traffic) (total : ℕ) (outcome : Outcome) (closings : ℕ) : Prop where
  written_isPrefix : t.written <+: t.read
  total_le : total ≤ t.written.length
  length_read_le : t.read.length ≤ total + chunkSize
  of_ok : ∀ n, outcome = .ok n → t.sourceEnd = some .eof
  of_stop : ∀ stop, t.sourceEnd = some stop →
    t.written = t.read ∧ total = t.read.length ∧ outcome = stop.outcome total
  closings_eq : t.closings = closings

/-- The record fits what the forwarder is busy with. -/
def Fits (t : Traffic) (f : Forward) : Prop :=
  match f.stage with
  | .closing outcome => t.Concluded f.total outcome 0
  | .finished outcome _ => t.Concluded f.total outcome 1
  | stage => t.Flows f.total stage.size stage.pending

/-- Nothing has passed through a new forwarder. -/
theorem fits_new : ({} : Traffic).Fits {} where
  read_eq := rfl
  length_read := rfl
  length_pending_le := le_rfl
  size_le := Nat.zero_le _
  sourceEnd_eq := rfl
  closings_eq := rfl

/-- A chunk that was read is pending until it is paid for everywhere. -/
theorem fits_payingFrom {chunk : List UInt8} {paid count : ℕ}
    (h : t.Flows total chunk.length chunk) :
    t.Fits ⟨total, Forward.payingFrom chunk paid count⟩ := by
  unfold Forward.payingFrom
  split <;> exact h

/-- An error of the limiters, of the destination or of the canceller ends the work wherever it is. -/
theorem Flows.concluded (h : t.Flows total size pending) (error : TunnelError) :
    t.Concluded total (.error error) 0 where
  written_isPrefix := ⟨pending, h.read_eq.symm⟩
  total_le := by
    have := congrArg List.length h.read_eq
    have := h.length_read
    have := h.length_pending_le
    simp only [List.length_append] at *
    omega
  length_read_le := by
    rw [h.length_read]
    exact Nat.add_le_add_left h.size_le _
  of_ok := nofun
  of_stop _ hstop := by simp [h.sourceEnd_eq] at hstop
  closings_eq := h.closings_eq

/-- Between two chunks all that was read is written. -/
theorem Flows.written_eq (h : t.Flows total size []) : t.written = t.read := by
  simpa using h.read_eq.symm

theorem Flows.take (h : t.Flows total size pending) (count : ℕ) :
    Flows { t with written := t.written ++ pending.take count } total size
      (pending.drop count) where
  read_eq := by simpa using h.read_eq
  length_read := h.length_read
  length_pending_le := (List.drop_sublist _ _).length_le.trans h.length_pending_le
  size_le := h.size_le
  sourceEnd_eq := h.sourceEnd_eq
  closings_eq := h.closings_eq

/-- When all of the chunk is written, it is counted. -/
theorem Flows.finish (h : t.Flows total size []) : t.Flows (total + size) 0 [] where
  read_eq := h.read_eq
  length_read := h.length_read
  length_pending_le := le_rfl
  size_le := Nat.zero_le _
  sourceEnd_eq := h.sourceEnd_eq
  closings_eq := h.closings_eq

/-- Between two chunks the source delivers the next one. -/
theorem Flows.receive (h : t.Flows total 0 []) {chunk : List UInt8}
    (hle : chunk.length ≤ chunkSize) :
    Flows { t with read := t.read ++ chunk } total chunk.length chunk where
  read_eq := by rw [h.written_eq]
  length_read := by rw [List.length_append, h.length_read, Nat.add_zero]
  length_pending_le := le_rfl
  size_le := hle
  sourceEnd_eq := h.sourceEnd_eq
  closings_eq := h.closings_eq

/-- Between two chunks the source stops. -/
theorem Flows.stop (h : t.Flows total 0 []) (stop : SourceEnd) :
    Concluded { t with sourceEnd := some stop } total (stop.outcome total) 0 where
  written_isPrefix := ⟨[], h.read_eq.symm⟩
  total_le := by
    rw [h.written_eq, h.length_read]
    exact le_rfl
  length_read_le := by
    rw [h.length_read]
    exact Nat.le_add_right _ _
  of_ok n hn := by
    cases stop with
    | eof => rfl
    | failed fault => cases hn
  of_stop _ hstop := by
    cases hstop
    exact ⟨h.written_eq, h.length_read.symm, rfl⟩
  closings_eq := h.closings_eq

/-- Whatever happens to a forwarder, what passes through it goes on to fit what it is busy with. -/
theorem Fits.step (h : t.Fits f) (hs : f.step limiters cancelled now action = some move) :
    (t.note f action).Fits move.forward := by
  cases Forward.stepped_of_step hs with
  | ended hstage =>
    rw [Fits, hstage] at h
    exact h.stop .eof
  | received hstage hne hle =>
    rw [Fits, hstage] at h
    rw [note_received hne]
    exact fits_payingFrom (h.receive hle)
  | readFailed fault hstage =>
    rw [Fits, hstage] at h
    exact h.stop (.failed fault)
  | granted hstage =>
    rw [Fits, hstage] at h
    exact fits_payingFrom h
  | waiting hstage =>
    rw [Fits, hstage] at h
    exact h
  | payFailed hstage =>
    rw [Fits, hstage] at h
    exact h.concluded _
  | tookNone hstage =>
    rw [Fits, hstage] at h
    rw [note_took hstage, List.take_zero, List.append_nil]
    exact h.concluded _
  | tookSome hstage hpos hlt =>
    rw [Fits, hstage] at h
    rw [note_took hstage]
    exact h.take _
  | @tookAll size rest hstage =>
    rw [Fits, hstage] at h
    rw [note_took hstage]
    -- the last bytes are taken as some are, and then the chunk is counted
    have htook : Flows _ f.total size (rest.drop rest.length) := h.take rest.length
    rw [List.drop_length] at htook
    exact htook.finish
  | writeFailed fault hstage =>
    rw [Fits, hstage] at h
    exact h.concluded _
  | heeded hcancelled hstage =>
    obtain hstage | ⟨size, rest, hstage⟩ := hstage
    all_goals
      rw [Fits, hstage] at h
      exact h.concluded _
  | shut fault hstage =>
    rw [Fits, hstage] at h
    exact { h with closings_eq := congrArg (· + 1) h.closings_eq }

/-! ## What the record tells -/

/-- What was written is the beginning of what was read, and all but a chunk was counted. -/
theorem Fits.carried (h : t.Fits f) : t.written <+: t.read ∧ f.total ≤ t.written.length ∧
    t.read.length ≤ f.total + chunkSize := by
  -- a forwarder that works could be cancelled right now
  have hworking (h : t.Flows f.total f.stage.size f.stage.pending) :=
    (h.concluded .cancelled : t.Concluded ..)
  cases hstage : f.stage <;> simp only [Fits, hstage] at h hworking
  case closing | finished => exact ⟨h.written_isPrefix, h.total_le, h.length_read_le⟩
  all_goals exact ⟨(hworking h).written_isPrefix, (hworking h).total_le, (hworking h).length_read_le⟩

theorem Fits.concluded (h : t.Fits f) {fault : Option IoFault}
    (ho : f.outcome? = some (outcome, fault)) : t.Concluded f.total outcome 1 := by
  unfold Forward.outcome? at ho
  split at ho
  next hstage =>
    cases ho
    simpa only [Fits, hstage] using h
  next => cases ho

/-- When the source stops, all that was read before is written. -/
theorem Fits.written_eq (h : t.Fits f) {stop : SourceEnd} (hstop : t.sourceEnd = some stop) :
    t.written = t.read := by
  cases hstage : f.stage <;> simp only [Fits, hstage] at h
  case closing | finished => exact (h.of_stop _ hstop).1
  all_goals cases h.sourceEnd_eq.symm.trans hstop

/-- The destination is closed when the forwarder finishes. -/
theorem Fits.closings_eq (h : t.Fits f) : t.closings = if f.outcome?.isSome then 1 else 0 := by
  cases hstage : f.stage <;> simp only [Fits, hstage] at h
  all_goals simpa [Forward.outcome?, hstage] using h.closings_eq

end Traffic

end Sluice
