import Mathlib.Data.List.DropRight
import Mathlib.Data.List.Induction
import Instrument.Proofs.SignalHistory
import Instrument.Proofs.StoreWindows

/-!
# Windows of one latch

Every window is a range of the same 64 bytes.  A byte is the one that the last sample since
everything was cleared put there, through whichever window; a window that reaches past the
end takes nothing and shows nothing.
-/

namespace Instrument

namespace SignalCall

/-- The byte that a call puts to a position of the latch: its window has to lie in the latch,
and the position among the bytes that window and sample both have. -/
def byteAt? (position : Nat) : SignalCall → Option UInt8
  | .latch window data =>
    if window.stop ≤ Signals.latchSize ∧ window.offset ≤ position ∧
        position < window.offset + min window.length data.length then
      data[position - window.offset]?
    else none
  | _ => none

def clears : SignalCall → Bool
  | .clear => true
  | _ => false

/-- The calls after the last one that cleared everything. -/
def sinceClear (calls : List SignalCall) : List SignalCall :=
  calls.rtakeWhile fun call => !call.clears

/-- The byte that calls have left at a position of the latch: that of the last one since the
latch was cleared that reached the position, and zero if none did. -/
def sampledByte (calls : List SignalCall) (position : Nat) : UInt8 :=
  ((sinceClear calls).filterMap (byteAt? position)).getLast?.getD 0

theorem sampledByte_concat (calls : List SignalCall) (call : SignalCall) (position : Nat) :
    sampledByte (calls ++ [call]) position =
      if call.clears then 0
      else (call.byteAt? position).getD (sampledByte calls position) := by
  by_cases cleared : call.clears = true
  · have none : sinceClear (calls ++ [call]) = [] :=
      List.rtakeWhile_concat_neg _ _ _ (by simp [cleared])
    rw [if_pos cleared, sampledByte, none]
    rfl
  · have kept : sinceClear (calls ++ [call]) = sinceClear calls ++ [call] :=
      List.rtakeWhile_concat_pos _ _ _ (by simp [cleared])
    rw [if_neg cleared, sampledByte, kept, List.filterMap_append]
    cases reached : call.byteAt? position with
    | none =>
        rw [List.filterMap_cons_none reached, List.filterMap_nil, List.append_nil]
        rfl
    | some byte =>
        rw [List.filterMap_cons_some reached, List.filterMap_nil, List.getLast?_concat]
        rfl

/-- A call that does not clear the latch leaves a byte where it puts none. -/
theorem getElem?_latched_apply (signals : Signals) {call : SignalCall}
    (kept : call.clears = false) {position : Nat} (inside : position < Signals.latchSize) :
    (call.apply signals).latched.bytes[position]? =
      (call.byteAt? position).or signals.latched.bytes[position]? := by
  cases call with
  | latch window data =>
      have whole := signals.latched.length_bytes
      rw [apply, byteAt?, Signals.latch]
      by_cases fits : window.stop ≤ Signals.latchSize
      · rw [if_pos fits]
        simp only [Store.bytes_overwrite, Bytes.getElem?_overwrite, List.length_take]
        by_cases covered : window.offset ≤ position ∧
            position < window.offset + min window.length data.length
        · have sampled : position - window.offset < data.length := by omega
          have stored : position < signals.latched.bytes.length := whole.symm ▸ inside
          rw [if_pos ⟨covered.1, covered.2, stored⟩, if_pos ⟨fits, covered⟩,
            List.getElem?_take_of_lt (by omega), List.getElem?_eq_getElem sampled]
          rfl
        · rw [if_neg (fun all => covered ⟨all.1, all.2.1⟩), if_neg (fun all => covered all.2)]
          rfl
      · rw [if_neg fits, if_neg (fun all => fits all.1)]
        rfl
  | raise index =>
      rw [apply, Signals.raise]
      split <;> rfl
  | clear => cases kept
  | increment | count | reset | readLatch | takeFlags => rfl

end SignalCall

namespace Signals

open SignalCall

theorem after_concat (calls : List SignalCall) (call : SignalCall) :
    after (calls ++ [call]) = call.apply (after calls) := by
  rw [after, List.foldl_append]
  rfl

theorem getElem?_latched_after (calls : List SignalCall) {position : Nat}
    (inside : position < latchSize) :
    (after calls).latched.bytes[position]? = some (sampledByte calls position) := by
  induction calls using List.reverseRecOn with
  | nil =>
      apply List.getElem?_replicate_of_lt
      exact inside
  | append_singleton calls call induction =>
      rw [after_concat, sampledByte_concat]
      by_cases cleared : call.clears = true
      · cases call with
        | clear =>
            rw [if_pos cleared]
            exact List.getElem?_replicate_of_lt inside
        | _ => cases cleared
      · rw [if_neg cleared, getElem?_latched_apply _ (Bool.not_eq_true _ ▸ cleared) inside,
          induction]
        cases call.byteAt? position <;> rfl

theorem latched_after (calls : List SignalCall) :
    (after calls).latched.bytes = (List.range latchSize).map (sampledByte calls) := by
  have whole := (after calls).latched.length_bytes
  apply List.ext_getElem?
  intro position
  rw [List.getElem?_map]
  by_cases inside : position < latchSize
  · rw [getElem?_latched_after calls inside, List.getElem?_range inside]
    rfl
  · have outside : (after calls).latched.bytes.length ≤ position := by
      rw [whole]
      exact Nat.le_of_not_lt inside
    rw [List.getElem?_eq_none outside, List.getElem?_eq_none (by simpa using inside)]
    rfl

/-- Reading a window copies its bytes over the start of a buffer, as far as both reach. -/
theorem getElem?_readLatch_after (calls : List SignalCall) {window : LatchWindow}
    (fits : window.stop ≤ latchSize) (buffer : Bytes) (index : Nat) :
    ((after calls).readLatch window buffer)[index]? =
      if index < min window.length buffer.length then
        some (sampledByte calls (window.offset + index))
      else buffer[index]? := by
  have viewed := (after calls).latched.length_view _ _ fits
  rw [readLatch, if_pos fits, Bytes.getElem?_overwrite, viewed]
  by_cases copied : index < min window.length buffer.length
  · have inWindow : index < window.length := by omega
    have inLatch : window.offset + index < latchSize :=
      Nat.lt_of_lt_of_le (Nat.add_lt_add_left inWindow _) fits
    rw [if_pos (by omega), if_pos copied, Nat.sub_zero, Store.getElem?_view, if_pos inWindow]
    exact getElem?_latched_after calls inLatch
  · rw [if_neg (by omega), if_neg copied]

/-- After any calls the latch is one memory of 64 bytes: each is the byte of the last sample
since the latch was cleared that reached it.  A window that lies in the latch shows its
bytes over the start of a buffer and leaves the rest of the buffer; one that reaches past
the end shows nothing and takes nothing. -/
theorem latch_memory (calls : List SignalCall) :
    (after calls).latched.bytes = (List.range latchSize).map (sampledByte calls) ∧
      (∀ (window : LatchWindow) (buffer : Bytes) (index : Nat), window.stop ≤ latchSize →
        ((after calls).readLatch window buffer)[index]? =
          if index < min window.length buffer.length then
            some (sampledByte calls (window.offset + index))
          else buffer[index]?) ∧
      ∀ (window : LatchWindow), latchSize < window.stop →
        (∀ buffer, (after calls).readLatch window buffer = buffer) ∧
          ∀ data, (after calls).latch window data = after calls := by
  refine ⟨latched_after calls, ?_, ?_⟩
  · intro window buffer index fits
    exact getElem?_readLatch_after calls fits buffer index
  · intro window past
    have outside : ¬ window.stop ≤ latchSize := Nat.not_le.mpr past
    constructor
    · intro buffer
      exact if_neg outside
    · intro data
      exact if_neg outside

/-- Two windows that overlap, a short sample and one past the end: the later sample shows
where it reached, also through the window of the earlier one. -/
theorem latch_memory_overlapping :
    let calls : List SignalCall := [.latch ⟨60, 4⟩ [7], .clear, .latch ⟨0, 4⟩ [1, 2, 3, 4],
      .latch ⟨2, 4⟩ [9], .latch ⟨60, 5⟩ [5, 5, 5, 5, 5]]
    LatchWindow.stop ⟨1, 4⟩ ≤ latchSize ∧
      ((after calls).readLatch ⟨1, 4⟩ [255, 255, 255])[1]? = some 9 ∧
      latchSize < LatchWindow.stop ⟨60, 5⟩ ∧ (after calls).readLatch ⟨60, 5⟩ [255] = [255] ∧
      (after calls).latched.bytes[60]? = some 0 := by
  intro calls
  have inside : LatchWindow.stop ⟨1, 4⟩ ≤ latchSize := by decide
  have past : latchSize < LatchWindow.stop ⟨60, 5⟩ := by decide
  obtain ⟨bytes, shown, refused⟩ := latch_memory calls
  refine ⟨inside, (shown _ [255, 255, 255] 1 inside).trans ?_, past, (refused _ past).1 [255], ?_⟩
  · decide
  · rw [bytes]
    decide

end Signals

end Instrument
