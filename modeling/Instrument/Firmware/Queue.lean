/-!
# Bounded queues

A queue holds at most as many items as its capacity.  An item is offered to the
queue and left out if there is no room; nothing that waits is ever replaced.
-/

namespace Instrument.Firmware

/-- A first-in, first-out queue of at most `capacity` items. -/
structure Queue (α : Type) (capacity : Nat) where
  /-- The items, the oldest first. -/
  items : List α := []
  length_items : items.length ≤ capacity := by decide

namespace Queue

variable {α : Type} {capacity : Nat}

def empty : Queue α capacity := ⟨[], Nat.zero_le capacity⟩

instance : Inhabited (Queue α capacity) := ⟨empty⟩

def size (queue : Queue α capacity) : Nat := queue.items.length

/-- Add an item at the end, if there is room. -/
def push? (queue : Queue α capacity) (item : α) : Option (Queue α capacity) :=
  if room : queue.items.length < capacity then
    some ⟨queue.items ++ [item], by
      rw [List.length_append]
      exact room⟩
  else
    none

/-- Add an item at the end, or leave it out if there is no room. -/
def offer (queue : Queue α capacity) (item : α) : Queue α capacity :=
  (queue.push? item).getD queue

def pop? (queue : Queue α capacity) : Option (α × Queue α capacity) :=
  match held : queue.items with
  | [] => none
  | item :: rest => some (item, ⟨rest, by
      have bound := queue.length_items
      rw [held, List.length_cons] at bound
      omega⟩)

/-- An item that is offered joins the end of the queue or, if the queue is full, is
left out. -/
theorem items_offer (queue : Queue α capacity) (item : α) :
    (queue.offer item).items =
      if queue.size < capacity then queue.items ++ [item] else queue.items := by
  by_cases room : queue.items.length < capacity <;> simp [offer, push?, size, room]

theorem items_of_pop? {queue rest : Queue α capacity} {item : α}
    (taken : queue.pop? = some (item, rest)) : queue.items = item :: rest.items := by
  unfold pop? at taken
  split at taken
  · cases taken
  · rename_i held
    cases taken
    exact held

theorem items_eq_nil_of_pop? {queue : Queue α capacity} (empty : queue.pop? = none) :
    queue.items = [] := by
  unfold pop? at empty
  split at empty
  · assumption
  · cases empty

end Queue

end Instrument.Firmware
