import Mathlib.Logic.Function.Basic
import IosWebkitDebugProxy.Library.Channel

/-! Many bounded queues that lead into one. Each source has a queue of its own and a
task that moves one message at a time from it into the shared queue, under the name
of the source. Seen from one source, that is one queue, whatever the others do. -/

universe u v

structure FanIn.Source (Item : Type v) (room : Nat) where
  entry : Channel Item room
  hand : Option Item

structure FanIn (Key : Type u) (Item : Type v) (entryRoom exitRoom : Nat) where
  sources : Key → FanIn.Source Item entryRoom
  exit : Channel (Key × Item) exitRoom

namespace FanIn

variable {Key : Type u} {Item : Type v} {entryRoom exitRoom : Nat}

def empty : FanIn Key Item entryRoom exitRoom := ⟨fun _ => ⟨.empty, none⟩, .empty⟩

variable [DecidableEq Key]

def setSource (key : Key) (source : Source Item entryRoom)
    (fan : FanIn Key Item entryRoom exitRoom) : FanIn Key Item entryRoom exitRoom :=
  { fan with sources := Function.update fan.sources key source }

def send (key : Key) (item : Item) (fan : FanIn Key Item entryRoom exitRoom) :
    Option (FanIn Key Item entryRoom exitRoom) :=
  ((fan.sources key).entry.send item).map fun entry =>
    fan.setSource key { fan.sources key with entry }

/-- The task of a source puts down the message it holds, or else takes the next. -/
def forward (key : Key) (fan : FanIn Key Item entryRoom exitRoom) :
    Option (FanIn Key Item entryRoom exitRoom) :=
  match (fan.sources key).hand with
  | some item => (fan.exit.send (key, item)).map fun exit =>
      { fan.setSource key { fan.sources key with hand := none } with exit }
  | none => (fan.sources key).entry.recv.map fun (item, entry) =>
      fan.setSource key ⟨entry, some item⟩

def recv (fan : FanIn Key Item entryRoom exitRoom) :
    Option ((Key × Item) × FanIn Key Item entryRoom exitRoom) :=
  fan.exit.recv.map fun (tagged, exit) => (tagged, { fan with exit })

/-- What a list of named messages holds of one source. -/
def own (key : Key) (tagged : List (Key × Item)) : List Item :=
  tagged.filterMap fun (name, item) => if name = key then some item else none

/-- What is on its way from one source, the oldest first. -/
def contents (key : Key) (fan : FanIn Key Item entryRoom exitRoom) : List Item :=
  own key fan.exit.items ++ (fan.sources key).hand.toList ++ (fan.sources key).entry.items

@[simp] theorem own_append (key : Key) (first second : List (Key × Item)) :
    own key (first ++ second) = own key first ++ own key second :=
  List.filterMap_append

@[simp] theorem own_nil (key : Key) : own key ([] : List (Key × Item)) = [] := rfl

theorem own_cons (key name : Key) (item : Item) (later : List (Key × Item)) :
    own key ((name, item) :: later) = (if name = key then [item] else []) ++ own key later := by
  by_cases same : name = key <;> simp [own, same]

@[simp] theorem contents_empty (key : Key) :
    (empty : FanIn Key Item entryRoom exitRoom).contents key = [] := rfl

theorem setSource_self (key : Key) (source : Source Item entryRoom)
    (fan : FanIn Key Item entryRoom exitRoom) : (fan.setSource key source).sources key = source :=
  Function.update_self ..

theorem setSource_of_ne {key other : Key} (apart : other ≠ key) (source : Source Item entryRoom)
    (fan : FanIn Key Item entryRoom exitRoom) :
    (fan.setSource key source).sources other = fan.sources other :=
  Function.update_of_ne apart ..

theorem send_contents {key : Key} {item : Item} {fan after : FanIn Key Item entryRoom exitRoom}
    (sent : fan.send key item = some after) (other : Key) :
    after.contents other = fan.contents other ++ if key = other then [item] else [] := by
  obtain ⟨entry, stored, rfl⟩ := Option.map_eq_some_iff.mp sent
  by_cases same : key = other
  · subst same
    have exit : (fan.setSource key { fan.sources key with entry }).exit = fan.exit := rfl
    simp only [contents, setSource_self, exit, (Channel.send_items stored).1, if_true,
      List.append_assoc]
  · rw [contents, setSource_of_ne (Ne.symm same), if_neg same, List.append_nil]
    rfl

theorem forward_contents {key : Key} {fan after : FanIn Key Item entryRoom exitRoom}
    (moved : fan.forward key = some after) (other : Key) :
    after.contents other = fan.contents other := by
  unfold forward at moved
  cases held : (fan.sources key).hand with
  | some item =>
      rw [held] at moved
      obtain ⟨exit, stored, rfl⟩ := Option.map_eq_some_iff.mp moved
      have items := (Channel.send_items stored).1
      by_cases same : key = other
      · subst same
        simp only [contents, setSource_self, items, own_append, own_cons, own_nil, if_true, held,
          Option.toList_none, Option.toList_some, List.append_nil]
      · simp only [contents, setSource_of_ne (Ne.symm same), items, own_append, own_cons, own_nil,
          if_neg same, List.append_nil, List.append_assoc]
  | none =>
      rw [held] at moved
      obtain ⟨⟨item, entry⟩, taken, rfl⟩ := Option.map_eq_some_iff.mp moved
      by_cases same : key = other
      · subst same
        rw [contents, setSource_self, contents, held, Channel.recv_items taken]
        simp [setSource]
      · rw [contents, setSource_of_ne (Ne.symm same)]
        rfl

theorem recv_contents {tagged : Key × Item} {fan after : FanIn Key Item entryRoom exitRoom}
    (received : fan.recv = some (tagged, after)) (key : Key) :
    fan.contents key = (if tagged.1 = key then [tagged.2] else []) ++ after.contents key := by
  obtain ⟨⟨⟨name, item⟩, exit⟩, taken, same⟩ := Option.map_eq_some_iff.mp received
  obtain ⟨rfl, rfl⟩ := (Prod.mk.injEq ..).mp same
  rw [contents, Channel.recv_items taken, own_cons]
  simp only [contents, List.append_assoc]

end FanIn
