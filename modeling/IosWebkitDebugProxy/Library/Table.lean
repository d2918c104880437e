import Mathlib.Algebra.Ring.Nat
import Mathlib.Data.List.AList

/-! Finite maps with an iteration order. Updating the value of a key that is
present keeps the order of the entries, so a view computed from the values
depends only on what the update changes. -/

universe u v

abbrev Table (K : Type u) (V : Type v) := AList (fun _ : K => V)

namespace Table

variable {K : Type u} {V : Type v}

def values (table : Table K V) : List V := table.entries.map Sigma.snd

def keysWhere (matching : V → Bool) (table : Table K V) : List K :=
  (table.entries.filter fun entry => matching entry.2).map Sigma.fst

def findValue (matching : V → Bool) (table : Table K V) : Option V :=
  table.values.find? matching

def updateAll (update : V → V) (table : Table K V) : Table K V where
  entries := table.entries.map fun entry => ⟨entry.1, update entry.2⟩
  nodupKeys := by
    unfold List.NodupKeys List.keys
    rw [List.map_map]
    exact table.nodupKeys

theorem updateAll_updateAll (first second : V → V) (table : Table K V) :
    updateAll second (updateAll first table) = updateAll (fun value => second (first value)) table := by
  apply AList.ext
  simp [updateAll]

variable [DecidableEq K]

def modifyEntries (key : K) (update : V → V) (entries : List (Sigma fun _ : K => V)) :
    List (Sigma fun _ : K => V) :=
  entries.map fun entry => if entry.1 = key then ⟨entry.1, update entry.2⟩ else entry

theorem keys_modifyEntries (key : K) (update : V → V) (entries : List (Sigma fun _ : K => V)) :
    (modifyEntries key update entries).keys = entries.keys := by
  induction entries with
  | nil => rfl
  | cons entry rest ih =>
      simp only [modifyEntries, List.map_cons, List.keys_cons] at ih ⊢
      rw [ih]
      split <;> rfl

def modify (key : K) (update : V → V) (table : Table K V) : Table K V where
  entries := modifyEntries key update table.entries
  nodupKeys := by
    unfold List.NodupKeys
    rw [keys_modifyEntries]
    exact table.nodupKeys

def assign (key : K) (value : V) (table : Table K V) : Table K V :=
  if key ∈ table then modify key (fun _ => value) table else AList.insert key value table

/-- The first value that matches is updated, under the key it is stored at. -/
def modifyWhere (matching : V → Bool) (update : V → V) (table : Table K V) : Table K V :=
  match table.entries.find? fun entry => matching entry.2 with
  | some entry => modify entry.1 update table
  | none => table

def eraseAll (keys : List K) (table : Table K V) : Table K V :=
  keys.foldl (fun remaining key => remaining.erase key) table

theorem mem_entries {key : K} {value : V} {table : Table K V} :
    ⟨key, value⟩ ∈ table.entries ↔ table.lookup key = some value :=
  (AList.mem_lookup_iff (s := table)).symm

theorem exists_lookup {key : K} {table : Table K V} (present : key ∈ table) :
    ∃ value, table.lookup key = some value :=
  Option.isSome_iff_exists.mp (AList.lookup_isSome.mpr present)

theorem mem_of_lookup {key : K} {value : V} {table : Table K V}
    (found : table.lookup key = some value) : key ∈ table :=
  AList.lookup_isSome.mp (Option.isSome_iff_exists.mpr ⟨value, found⟩)

theorem mem_values {value : V} {table : Table K V} :
    value ∈ values table ↔ ∃ key, table.lookup key = some value := by
  simp only [values, List.mem_map]
  constructor
  · rintro ⟨⟨key, found⟩, member, rfl⟩
    exact ⟨key, mem_entries.mp member⟩
  · rintro ⟨key, found⟩
    exact ⟨⟨key, value⟩, mem_entries.mpr found, rfl⟩

theorem mem_keysWhere {key : K} {matching : V → Bool} {table : Table K V} :
    key ∈ keysWhere matching table ↔ ∃ value, table.lookup key = some value ∧ matching value := by
  simp only [keysWhere, List.mem_map, List.mem_filter]
  constructor
  · rintro ⟨⟨found, value⟩, ⟨member, holds⟩, rfl⟩
    exact ⟨value, mem_entries.mp member, holds⟩
  · rintro ⟨value, found, holds⟩
    exact ⟨⟨key, value⟩, ⟨mem_entries.mpr found, holds⟩, rfl⟩

theorem dlookup_modifyEntries (key other : K) (update : V → V)
    (entries : List (Sigma fun _ : K => V)) :
    (modifyEntries key update entries).dlookup other =
      if other = key then (entries.dlookup other).map update else entries.dlookup other := by
  induction entries with
  | nil => simp [modifyEntries]
  | cons entry rest ih =>
      obtain ⟨stored, value⟩ := entry
      simp only [modifyEntries, List.map_cons] at ih ⊢
      by_cases here : other = stored
      · subst here
        by_cases same : other = key
        · rw [if_pos same, if_pos same, List.dlookup_cons_eq, List.dlookup_cons_eq,
            Option.map_some]
        · rw [if_neg same, if_neg same, List.dlookup_cons_eq, List.dlookup_cons_eq]
      · by_cases same : stored = key
        · rw [if_pos same, List.dlookup_cons_ne _ _ here, List.dlookup_cons_ne _ _ here, ih]
        · rw [if_neg same, List.dlookup_cons_ne _ _ here, List.dlookup_cons_ne _ _ here, ih]

@[simp] theorem lookup_modify (key other : K) (update : V → V) (table : Table K V) :
    (modify key update table).lookup other =
      if other = key then (table.lookup other).map update else table.lookup other :=
  dlookup_modifyEntries key other update table.entries

theorem lookup_of_modify {key other : K} {update : V → V} {value : V} {table : Table K V}
    (found : (modify key update table).lookup other = some value) :
    (other = key ∧ ∃ old, table.lookup other = some old ∧ value = update old) ∨
      other ≠ key ∧ table.lookup other = some value := by
  rw [lookup_modify] at found
  split at found
  · rename_i here
    obtain ⟨old, stored, same⟩ := Option.map_eq_some_iff.mp found
    exact .inl ⟨here, old, stored, same.symm⟩
  · rename_i apart
    exact .inr ⟨apart, found⟩

@[simp] theorem mem_modify {key other : K} {update : V → V} {table : Table K V} :
    other ∈ modify key update table ↔ other ∈ table := by
  rw [← AList.lookup_isSome, ← AList.lookup_isSome, lookup_modify]
  split
  · rw [Option.isSome_map]
  · rfl

@[simp] theorem lookup_assign (key other : K) (value : V) (table : Table K V) :
    (assign key value table).lookup other =
      if other = key then some value else table.lookup other := by
  unfold assign
  by_cases same : other = key
  · subst same
    by_cases present : other ∈ table
    · obtain ⟨old, found⟩ := exists_lookup present
      simp [present, found]
    · simp [present]
  · by_cases present : key ∈ table <;> simp [present, same]

@[simp] theorem mem_assign {key other : K} {value : V} {table : Table K V} :
    other ∈ assign key value table ↔ other = key ∨ other ∈ table := by
  rw [← AList.lookup_isSome, ← AList.lookup_isSome, lookup_assign]
  split <;> simp_all

@[simp] theorem lookup_eraseAll (keys : List K) (key : K) (table : Table K V) :
    (eraseAll keys table).lookup key = if key ∈ keys then none else table.lookup key := by
  induction keys generalizing table with
  | nil => simp [eraseAll]
  | cons first rest ih =>
      simp only [eraseAll, List.foldl_cons] at ih ⊢
      rw [ih]
      by_cases later : key ∈ rest
      · simp [later]
      · by_cases same : key = first
        · subst same
          simp [later]
        · simp [later, same]

theorem lookup_of_erase {removed key : K} {value : V} {table : Table K V}
    (found : (table.erase removed).lookup key = some value) : table.lookup key = some value := by
  by_cases here : key = removed
  · subst here
    rw [AList.lookup_erase] at found
    cases found
  · rw [AList.lookup_erase_ne here] at found
    exact found

theorem erase_eq_self {key : K} {table : Table K V} (absent : key ∉ table) :
    table.erase key = table :=
  AList.ext (List.kerase_of_notMem_keys (mt AList.mem_keys.mpr absent))

theorem modifyEntries_eq_self {key : K} {update : V → V} {entries : List (Sigma fun _ : K => V)}
    (absent : key ∉ entries.keys) : modifyEntries key update entries = entries := by
  unfold modifyEntries
  conv_rhs => rw [← List.map_id entries]
  apply List.map_congr_left
  intro entry member
  have other : entry.1 ≠ key := by
    rintro rfl
    exact absent (List.mem_keys_of_mem member)
  simp [other]

theorem sum_modify (size : V → Nat) {key : K} (update : V → V) {old : V}
    {table : Table K V} (found : table.lookup key = some old) :
    ((values (modify key update table)).map size).sum + size old =
      ((values table).map size).sum + size (update old) := by
  obtain ⟨entries, nodup⟩ := table
  simp only [values, modify, AList.lookup] at found ⊢
  induction entries with
  | nil => simp at found
  | cons entry rest ih =>
      obtain ⟨first, value⟩ := entry
      rw [List.nodupKeys_cons] at nodup
      by_cases here : first = key
      · subst here
        rw [List.dlookup_cons_eq, Option.some.injEq] at found
        subst found
        have same : modifyEntries first update rest = rest := modifyEntries_eq_self nodup.1
        simp only [modifyEntries] at same ⊢
        simp only [List.map_cons, if_true, same, List.sum_cons]
        omega
      · rw [List.dlookup_cons_ne _ _ (fun same => here same.symm)] at found
        have later := ih nodup.2 found
        simp only [modifyEntries] at later ⊢
        simp only [List.map_cons, here, if_false, List.sum_cons]
        omega

theorem countP_eq_sum (matching : V → Bool) (found : List V) :
    found.countP matching = (found.map fun value => if matching value then 1 else 0).sum := by
  induction found with
  | nil => rfl
  | cons value rest ih =>
      rw [List.countP_cons, List.map_cons, List.sum_cons, ih, Nat.add_comm]

theorem countP_modify (matching : V → Bool) {key : K} (update : V → V) {old : V}
    {table : Table K V} (found : table.lookup key = some old) :
    (values (modify key update table)).countP matching + (if matching old then 1 else 0) =
      (values table).countP matching + if matching (update old) then 1 else 0 := by
  rw [countP_eq_sum, countP_eq_sum]
  exact sum_modify (fun value => if matching value then 1 else 0) update found

theorem modify_eq_self {key : K} {update : V → V} {table : Table K V}
    (fixed : ∀ value, table.lookup key = some value → update value = value) :
    modify key update table = table := by
  apply AList.ext
  simp only [modify, modifyEntries]
  conv_rhs => rw [← List.map_id table.entries]
  apply List.map_congr_left
  rintro ⟨here, value⟩ member
  by_cases same : here = key
  · subst same
    simp [fixed value (mem_entries.mp member)]
  · simp [same]

@[simp] theorem lookup_updateAll (update : V → V) (key : K) (table : Table K V) :
    (updateAll update table).lookup key = (table.lookup key).map update := by
  obtain ⟨entries, nodup⟩ := table
  simp only [updateAll, AList.lookup]
  clear nodup
  induction entries with
  | nil => rfl
  | cons entry rest ih =>
      obtain ⟨stored, value⟩ := entry
      rw [List.map_cons]
      by_cases here : key = stored
      · subst here
        rw [List.dlookup_cons_eq, List.dlookup_cons_eq, Option.map_some]
      · rw [List.dlookup_cons_ne _ _ here, List.dlookup_cons_ne _ _ here, ih]

theorem updateAll_eq_self_iff {update : V → V} {table : Table K V} :
    updateAll update table = table ↔
      ∀ key value, table.lookup key = some value → update value = value := by
  constructor
  · intro same key value found
    have updated := lookup_updateAll update key table
    rw [same, found, Option.map_some, Option.some.injEq] at updated
    exact updated.symm
  · intro fixed
    apply AList.ext
    simp only [updateAll]
    conv_rhs => rw [← List.map_id table.entries]
    apply List.map_congr_left
    rintro ⟨key, value⟩ member
    simp [fixed key value (mem_entries.mp member)]

theorem modify_eq_updateAll {key : K} {update all : V → V} {table : Table K V}
    (same : ∀ other value, table.lookup other = some value →
      all value = if other = key then update value else value) :
    modify key update table = updateAll all table := by
  apply AList.ext
  simp only [modify, modifyEntries, updateAll]
  apply List.map_congr_left
  rintro ⟨other, value⟩ member
  rw [same other value (mem_entries.mp member)]
  split <;> rfl

theorem eraseAll_eq_self {keys : List K} {table : Table K V} (absent : ∀ key ∈ keys, key ∉ table) :
    eraseAll keys table = table := by
  induction keys with
  | nil => rfl
  | cons first rest ih =>
      simp only [eraseAll, List.foldl_cons] at ih ⊢
      rw [erase_eq_self (absent first List.mem_cons_self)]
      exact ih fun key member => absent key (List.mem_cons_of_mem first member)

theorem assign_eq_self_iff {key : K} {value : V} {table : Table K V} :
    assign key value table = table ↔ table.lookup key = some value := by
  constructor
  · intro same
    rw [← same, lookup_assign, if_pos rfl]
  · intro found
    have present : key ∈ table := mem_of_lookup found
    rw [assign, if_pos present]
    apply modify_eq_self
    intro old stored
    rw [found] at stored
    exact Option.some.inj stored

theorem map_values_modify {W : Type*} (view : V → W) {key : K} {update : V → V}
    {table : Table K V}
    (unseen : ∀ value, table.lookup key = some value → view (update value) = view value) :
    (values (modify key update table)).map view = (values table).map view := by
  simp only [values, modify, modifyEntries, List.map_map]
  apply List.map_congr_left
  rintro ⟨here, value⟩ member
  by_cases same : here = key
  · subst same
    simp [unseen value (mem_entries.mp member)]
  · simp [same]

theorem map_values_modifyWhere {W : Type*} (view : V → W) {matching : V → Bool} (update : V → V)
    (unseen : ∀ value, view (update value) = view value) (table : Table K V) :
    (values (modifyWhere matching update table)).map view = (values table).map view := by
  unfold modifyWhere
  split
  · exact map_values_modify view fun value _ => unseen value
  · rfl

theorem findValue_eq_lookup {matching : V → Bool} {key : K} {table : Table K V}
    (only : ∀ other value, table.lookup other = some value → (matching value = true ↔ other = key)) :
    findValue matching table = table.lookup key := by
  cases found : findValue matching table with
  | none =>
      have none : ∀ value ∈ values table, ¬matching value = true := List.find?_eq_none.mp found
      cases stored : table.lookup key with
      | none => rfl
      | some value =>
          exact absurd ((only key value stored).mpr rfl) (none value (mem_values.mpr ⟨key, stored⟩))
  | some value =>
      have holds : matching value = true := List.find?_some found
      obtain ⟨other, stored⟩ := mem_values.mp (List.mem_of_find?_eq_some found)
      have same := (only other value stored).mp holds
      rw [← same, stored]

@[simp] theorem mem_modifyWhere {matching : V → Bool} {update : V → V} {table : Table K V}
    {key : K} : key ∈ modifyWhere matching update table ↔ key ∈ table := by
  unfold modifyWhere
  split
  · exact mem_modify
  · rfl

theorem modifyWhere_eq_modify {matching : V → Bool} {key : K} {update : V → V} {table : Table K V}
    (only : ∀ other value, table.lookup other = some value → (matching value = true ↔ other = key)) :
    modifyWhere matching update table = modify key update table := by
  unfold modifyWhere
  split
  · rename_i entry found
    have holds : matching entry.2 = true := by simpa using List.find?_some found
    have stored := mem_entries.mp (List.mem_of_find?_eq_some found)
    rw [(only entry.1 entry.2 stored).mp holds]
  · rename_i missing
    symm
    apply modify_eq_self
    intro value stored
    have holds := (only key value stored).mpr rfl
    have skipped := List.find?_eq_none.mp missing ⟨key, value⟩ (mem_entries.mpr stored)
    exact absurd holds skipped

end Table
