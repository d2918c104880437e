import Mathlib.Data.List.Basic
import IosWebkitDebugProxy.Library.Transition

/-! Bounded queues, and the two-stage pipeline made of two of them and a task
that moves one message at a time from the first to the second. Seen from
outside, a pipeline is one queue whose room is the sum of its parts. -/

universe u

structure Channel (Item : Type u) (capacity : Nat) where
  items : List Item
  bounded : items.length ≤ capacity

namespace Channel

variable {Item : Type u} {capacity : Nat}

def empty : Channel Item capacity := ⟨[], Nat.zero_le _⟩

def Full (channel : Channel Item capacity) : Prop := channel.items.length = capacity

instance (channel : Channel Item capacity) : Decidable channel.Full :=
  inferInstanceAs (Decidable (_ = _))

/-- A send waits for room, so it has no result while the queue is full. -/
def send (value : Item) (channel : Channel Item capacity) : Option (Channel Item capacity) :=
  if room : channel.items.length < capacity then
    some ⟨channel.items ++ [value], by simp only [List.length_append, List.length_singleton]; omega⟩
  else none

def recv (channel : Channel Item capacity) : Option (Item × Channel Item capacity) :=
  match channel with
  | ⟨[], _⟩ => none
  | ⟨first :: rest, bounded⟩ => some (first, ⟨rest, by simp at bounded; omega⟩)

theorem not_full_iff {channel : Channel Item capacity} :
    ¬channel.Full ↔ channel.items.length < capacity := by
  have bounded := channel.bounded
  unfold Full
  omega

theorem send_eq_none {value : Item} {channel : Channel Item capacity} :
    channel.send value = none ↔ channel.Full := by
  have bounded := channel.bounded
  unfold send Full
  split
  · simp only [reduceCtorEq, false_iff]
    omega
  · simp only [true_iff]
    omega

theorem send_items {value : Item} {channel after : Channel Item capacity}
    (sent : channel.send value = some after) :
    after.items = channel.items ++ [value] ∧ ¬channel.Full := by
  unfold send at sent
  split at sent
  · rename_i room
    cases sent
    exact ⟨rfl, not_full_iff.mpr room⟩
  · cases sent

theorem exists_send {channel : Channel Item capacity} (room : ¬channel.Full) (value : Item) :
    ∃ after, channel.send value = some after ∧ after.items = channel.items ++ [value] := by
  refine ⟨⟨channel.items ++ [value], ?_⟩, ?_, rfl⟩
  · have below := not_full_iff.mp room
    simp only [List.length_append, List.length_singleton]
    omega
  · simp [send, not_full_iff.mp room]

theorem recv_items {value : Item} {channel after : Channel Item capacity}
    (received : channel.recv = some (value, after)) : channel.items = value :: after.items := by
  obtain ⟨items, bounded⟩ := channel
  cases items with
  | nil => simp [recv] at received
  | cons first rest =>
      simp only [recv, Option.some.injEq, Prod.mk.injEq] at received
      obtain ⟨rfl, rfl⟩ := received
      rfl

theorem recv_eq_none {channel : Channel Item capacity} :
    channel.recv = none ↔ channel.items = [] := by
  obtain ⟨items, bounded⟩ := channel
  cases items <;> simp [recv]

theorem exists_recv {channel : Channel Item capacity} {value : Item} {rest : List Item}
    (shape : channel.items = value :: rest) :
    ∃ after, channel.recv = some (value, after) ∧ after.items = rest := by
  obtain ⟨items, bounded⟩ := channel
  simp only at shape
  subst shape
  exact ⟨⟨rest, by simp at bounded; omega⟩, rfl, rfl⟩

end Channel

/-- Two queues with a forwarding task between them, which may hold one message. -/
structure Pipeline (Item : Type u) (entryRoom exitRoom : Nat) where
  entry : Channel Item entryRoom
  hand : Option Item
  exit : Channel Item exitRoom

namespace Pipeline

variable {Item : Type u} {entryRoom exitRoom : Nat}

def empty : Pipeline Item entryRoom exitRoom := ⟨.empty, none, .empty⟩

def send (value : Item) (pipeline : Pipeline Item entryRoom exitRoom) :
    Option (Pipeline Item entryRoom exitRoom) :=
  (pipeline.entry.send value).map fun entry => { pipeline with entry }

/-- The forwarding task puts down the message it holds, or else takes the next. -/
def forward (pipeline : Pipeline Item entryRoom exitRoom) :
    Option (Pipeline Item entryRoom exitRoom) :=
  match pipeline.hand with
  | some value => (pipeline.exit.send value).map fun exit => { pipeline with hand := none, exit }
  | none => pipeline.entry.recv.map fun (value, entry) => { pipeline with entry, hand := some value }

def recv (pipeline : Pipeline Item entryRoom exitRoom) :
    Option (Item × Pipeline Item entryRoom exitRoom) :=
  pipeline.exit.recv.map fun (value, exit) => (value, { pipeline with exit })

def contents (pipeline : Pipeline Item entryRoom exitRoom) : List Item :=
  pipeline.exit.items ++ pipeline.hand.toList ++ pipeline.entry.items

def Stuck (pipeline : Pipeline Item entryRoom exitRoom) : Prop :=
  pipeline.entry.Full ∧ pipeline.hand.isSome ∧ pipeline.exit.Full

@[simp] theorem contents_empty : (empty : Pipeline Item entryRoom exitRoom).contents = [] := rfl

theorem hand_length (hand : Option Item) : hand.toList.length ≤ 1 := by
  cases hand <;> simp

theorem contents_length (pipeline : Pipeline Item entryRoom exitRoom) :
    pipeline.contents.length ≤ entryRoom + exitRoom + 1 := by
  have entry := pipeline.entry.bounded
  have exit := pipeline.exit.bounded
  have hand := hand_length pipeline.hand
  simp only [contents, List.length_append]
  omega

theorem stuck_iff {pipeline : Pipeline Item entryRoom exitRoom} :
    pipeline.Stuck ↔ pipeline.contents.length = entryRoom + exitRoom + 1 := by
  have entry := pipeline.entry.bounded
  have exit := pipeline.exit.bounded
  simp only [Stuck, Channel.Full, contents, List.length_append]
  cases pipeline.hand with
  | none =>
      simp only [Option.isSome_none, Option.toList_none, List.length_nil]
      constructor
      · rintro ⟨_, impossible, _⟩
        cases impossible
      · intro full
        omega
  | some value =>
      simp only [Option.isSome_some, Option.toList_some, List.length_singleton, true_and]
      omega

theorem send_contents {value : Item} {pipeline after : Pipeline Item entryRoom exitRoom}
    (sent : pipeline.send value = some after) :
    after.contents = pipeline.contents ++ [value] ∧ ¬pipeline.entry.Full := by
  simp only [send, Option.map_eq_some_iff] at sent
  obtain ⟨entry, stored, rfl⟩ := sent
  have added := Channel.send_items stored
  exact ⟨by simp [contents, added.1], added.2⟩

theorem forward_contents {pipeline after : Pipeline Item entryRoom exitRoom}
    (moved : pipeline.forward = some after) : after.contents = pipeline.contents := by
  unfold forward at moved
  split at moved
  · rename_i value held
    simp only [Option.map_eq_some_iff] at moved
    obtain ⟨exit, stored, rfl⟩ := moved
    simp [contents, held, (Channel.send_items stored).1]
  · rename_i free
    simp only [Option.map_eq_some_iff] at moved
    obtain ⟨⟨value, entry⟩, taken, rfl⟩ := moved
    simp [contents, free, Channel.recv_items taken]

theorem recv_contents {value : Item} {pipeline after : Pipeline Item entryRoom exitRoom}
    (received : pipeline.recv = some (value, after)) :
    pipeline.contents = value :: after.contents := by
  simp only [recv, Option.map_eq_some_iff] at received
  obtain ⟨⟨first, exit⟩, taken, same⟩ := received
  simp only [Prod.mk.injEq] at same
  obtain ⟨rfl, rfl⟩ := same
  simp [contents, Channel.recv_items taken]

theorem exists_send {pipeline : Pipeline Item entryRoom exitRoom} (room : ¬pipeline.entry.Full)
    (value : Item) : ∃ after, pipeline.send value = some after := by
  obtain ⟨entry, stored, _⟩ := Channel.exists_send room value
  exact ⟨{ pipeline with entry }, by simp [send, stored]⟩

/-- How many steps the messages in a pipeline still have in front of them. -/
def work (pipeline : Pipeline Item entryRoom exitRoom) : Nat :=
  3 * pipeline.entry.items.length + 2 * pipeline.hand.toList.length + pipeline.exit.items.length

theorem take_makes_room (pipeline : Pipeline Item entryRoom exitRoom) (free : pipeline.hand = none)
    (nonempty : pipeline.entry.items ≠ []) :
    ∃ after, pipeline.forward = some after ∧ ¬after.entry.Full := by
  obtain ⟨value, rest, shape⟩ := List.exists_cons_of_ne_nil nonempty
  obtain ⟨entry, taken, left⟩ := Channel.exists_recv shape
  refine ⟨{ pipeline with entry, hand := some value }, by simp [forward, free, taken], ?_⟩
  have bounded := pipeline.entry.bounded
  rw [Channel.not_full_iff, left]
  rw [shape, List.length_cons] at bounded
  omega

inductive Forwards : Pipeline Item entryRoom exitRoom → Pipeline Item entryRoom exitRoom → Prop
  | refl (pipeline) : Forwards pipeline pipeline
  | step {first middle final} : first.forward = some middle → Forwards middle final →
      Forwards first final

theorem Forwards.contents_eq {first final : Pipeline Item entryRoom exitRoom}
    (moved : Forwards first final) : final.contents = first.contents := by
  induction moved with
  | refl => rfl
  | step move _ ih => rw [ih, forward_contents move]

theorem exists_room {pipeline : Pipeline Item entryRoom exitRoom} (positive : 0 < entryRoom)
    (below : pipeline.contents.length < entryRoom + exitRoom + 1) :
    ∃ after, Forwards pipeline after ∧ ¬after.entry.Full := by
  by_cases full : pipeline.entry.Full
  · have nonempty : pipeline.entry.items ≠ [] := by
      intro none
      rw [Channel.Full, none, List.length_nil] at full
      omega
    cases held : pipeline.hand with
    | none =>
        obtain ⟨after, moved, room⟩ := take_makes_room pipeline held nonempty
        exact ⟨after, .step moved (.refl _), room⟩
    | some value =>
        have exitRoomLeft : ¬pipeline.exit.Full := by
          intro exitFull
          have stuck := stuck_iff.mp ⟨full, by simp [held], exitFull⟩
          omega
        obtain ⟨exit, stored, _⟩ := Channel.exists_send exitRoomLeft value
        have passed : pipeline.forward = some { pipeline with hand := none, exit } := by
          simp [forward, held, stored]
        obtain ⟨after, moved, room⟩ :=
          take_makes_room { pipeline with hand := none, exit } rfl nonempty
        exact ⟨after, .step passed (.step moved (.refl _)), room⟩
  · exact ⟨pipeline, .refl _, full⟩

section Clogging

open Transition

variable {State Event : Type*} (step : State → Event → State)
variable (pipe : State → Pipeline Item entryRoom exitRoom) (Keep : Nat → State → Prop)

theorem Forwards.run {first final : Pipeline Item entryRoom exitRoom} (moved : Forwards first final)
    (forwards : ∀ count state after, Keep count state → (pipe state).forward = some after →
      ∃ events, pipe (run step state events) = after ∧ Keep count (run step state events))
    {count : Nat} {state : State} (atFirst : pipe state = first) (keep : Keep count state) :
    ∃ events, pipe (Transition.run step state events) = final ∧
      Keep count (Transition.run step state events) := by
  induction moved generalizing state with
  | refl => exact ⟨[], atFirst, keep⟩
  | step move _ ih =>
      subst atFirst
      obtain ⟨earlier, reached, kept⟩ := forwards count state _ keep move
      obtain ⟨later, finished, done⟩ := ih reached kept
      refine ⟨earlier ++ later, ?_⟩
      rw [run_append]
      exact ⟨finished, done⟩

/-- Senders with more messages than there are free places clog a pipeline that
nobody reads. `Keep` counts the messages that are still to be sent. -/
theorem clogs (positive : 0 < entryRoom)
    (forwards : ∀ count state after, Keep count state → (pipe state).forward = some after →
      ∃ events, pipe (run step state events) = after ∧ Keep count (run step state events))
    (puts : ∀ count state, Keep (count + 1) state → ¬(pipe state).entry.Full →
      ∃ events, (pipe (run step state events)).contents.length =
        (pipe state).contents.length + 1 ∧ Keep count (run step state events))
    {count : Nat} {state : State} (keep : Keep count state)
    (enough : entryRoom + exitRoom + 1 ≤ (pipe state).contents.length + count) :
    ∃ events rest, (pipe (run step state events)).Stuck ∧ Keep rest (run step state events) ∧
      (pipe state).contents.length + count = entryRoom + exitRoom + 1 + rest := by
  induction count generalizing state with
  | zero =>
      have bound := (pipe state).contents_length
      refine ⟨[], 0, stuck_iff.mpr ?_, keep, ?_⟩
      · change (pipe state).contents.length = _
        omega
      · omega
  | succ count ih =>
      by_cases below : (pipe state).contents.length < entryRoom + exitRoom + 1
      · obtain ⟨roomy, moved, room⟩ := exists_room positive below
        obtain ⟨first, reached, kept⟩ := moved.run step pipe Keep forwards rfl keep
        rw [← reached] at room
        obtain ⟨second, longer, left⟩ := puts count _ kept room
        rw [reached, moved.contents_eq] at longer
        obtain ⟨third, rest, stuck, done, total⟩ := ih left (by omega)
        refine ⟨first ++ (second ++ third), rest, ?_⟩
        rw [run_append, run_append]
        exact ⟨stuck, done, by omega⟩
      · have bound := (pipe state).contents_length
        refine ⟨[], count + 1, stuck_iff.mpr ?_, keep, ?_⟩
        · change (pipe state).contents.length = _
          omega
        · omega

end Clogging

end Pipeline
