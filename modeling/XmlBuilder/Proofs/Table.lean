import Mathlib.Data.List.Induction
import XmlBuilder.Table

/-!
# Many entries at once

What becomes of a table when a list of entries is added to it, one after the other. Either way the
names that it has keep their places, and new ones follow in the order in which they come first
(`keys_insertAll`, `insertAllIfNew_eq`). Entries that replace old values leave a table in which
they stand already as it is (`insertAll_twice`).
-/
namespace XmlBuilder.Table

variable {α : Type}

def keys (table : Table α) : List String :=
  table.map (·.1)

/-- Gives all names of the entries their values, the later ones last. -/
def insertAll (entries : List (String × α)) (table : Table α) : Table α :=
  entries.foldl (fun table entry => insert entry.1 entry.2 table) table

/-- Gives the names of the entries values unless they have one. -/
def insertAllIfNew (entries : List (String × α)) (table : Table α) : Table α :=
  entries.foldl (fun table entry => insertIfNew entry.1 entry.2 table) table

/-- The entries whose names the table does not have, of each name the first. -/
def firstNew (table : Table α) (entries : List (String × α)) : List (String × α) :=
  (entries.filter fun entry => entry.1 ∉ table.keys).eraseDupsBy fun later first =>
    later.1 == first.1

/-! ## One entry -/

theorem insert_of_new {name : String} {table : Table α} (new : name ∉ table.keys) (value : α) :
    insert name value table = table ++ [(name, value)] := by
  induction table with
  | nil => rfl
  | cons entry rest ih =>
    rw [keys, List.map_cons, List.mem_cons, not_or] at new
    rw [insert, if_neg (Ne.symm new.1), ih new.2, List.cons_append]

theorem keys_insert_of_old {name : String} {table : Table α} (old : name ∈ table.keys)
    (value : α) : (insert name value table).keys = table.keys := by
  induction table with
  | nil => cases old
  | cons entry rest ih =>
    rw [insert]
    split
    · next same => rfl
    · next other =>
      rw [keys, List.map_cons, List.mem_cons] at old
      have later : name ∈ keys rest := old.resolve_left (Ne.symm other)
      exact congrArg (entry.1 :: ·) (ih later)

theorem insertIfNew_of_new {name : String} {table : Table α} (new : name ∉ table.keys)
    (value : α) : insertIfNew name value table = table ++ [(name, value)] := by
  induction table with
  | nil => rfl
  | cons entry rest ih =>
    rw [keys, List.map_cons, List.mem_cons, not_or] at new
    rw [insertIfNew, if_neg (Ne.symm new.1), ih new.2, List.cons_append]

theorem insertIfNew_of_old {name : String} {table : Table α} (old : name ∈ table.keys)
    (value : α) : insertIfNew name value table = table := by
  induction table with
  | nil => cases old
  | cons entry rest ih =>
    rw [insertIfNew]
    split
    · rfl
    · next other =>
      rw [keys, List.map_cons, List.mem_cons] at old
      rw [ih (old.resolve_left (Ne.symm other))]

theorem keys_append (table more : Table α) : (table ++ more).keys = table.keys ++ more.keys :=
  List.map_append

/-! ## Places -/

theorem keys_insertAll (entries : List (String × α)) (table : Table α) :
    (insertAll entries table).keys =
      table.keys ++ ((keys entries).filter (· ∉ table.keys)).eraseDups := by
  induction entries generalizing table with
  | nil => simp [insertAll, keys]
  | cons entry rest ih =>
    have step : insertAll (entry :: rest) table =
        insertAll rest (insert entry.1 entry.2 table) := rfl
    have names : keys (entry :: rest) = entry.1 :: keys rest := rfl
    rw [step, ih, names]
    by_cases old : entry.1 ∈ table.keys
    · rw [keys_insert_of_old old, List.filter_cons_of_neg (by simpa using old)]
    · have grown : keys (table ++ [entry]) = table.keys ++ [entry.1] := keys_append table [entry]
      rw [insert_of_new old, grown, List.filter_cons_of_pos (by simpa using old),
        List.eraseDups_cons, List.filter_filter, List.append_assoc, List.singleton_append]
      congr 4
      funext name
      by_cases same : name = entry.1 <;> simp [same]

theorem insertAllIfNew_eq (entries : List (String × α)) (table : Table α) :
    insertAllIfNew entries table = table ++ firstNew table entries := by
  induction entries generalizing table with
  | nil => simp [insertAllIfNew, firstNew]
  | cons entry rest ih =>
    have step : insertAllIfNew (entry :: rest) table =
        insertAllIfNew rest (insertIfNew entry.1 entry.2 table) := rfl
    rw [step, ih]
    by_cases old : entry.1 ∈ table.keys
    · rw [insertIfNew_of_old old, firstNew, firstNew, List.filter_cons_of_neg (by simpa using old)]
    · have grown : keys (table ++ [entry]) = table.keys ++ [entry.1] := keys_append table [entry]
      rw [insertIfNew_of_new old, firstNew, firstNew, grown,
        List.filter_cons_of_pos (by simpa using old), List.eraseDupsBy_cons, List.filter_filter,
        List.append_assoc, List.singleton_append]
      congr 4
      funext other
      by_cases same : other.1 = entry.1 <;> simp [same]

theorem mem_of_find? {table : Table α} {name : String} {value : α}
    (found : table.find? name = some value) : (name, value) ∈ table := by
  obtain ⟨before, after, rfl, -⟩ := List.lookup_eq_some_iff.1 found
  simp

theorem find?_of_mem {table : Table α} {name : String} {value : α} (distinct : table.keys.Nodup)
    (member : (name, value) ∈ table) : table.find? name = some value := by
  obtain ⟨before, after, rfl⟩ := List.append_of_mem member
  rw [keys_append] at distinct
  refine List.lookup_eq_some_iff.2 ⟨before, after, rfl, fun other earlier => ?_⟩
  have apart : other.1 ≠ name := fun same =>
    (List.nodup_append.1 distinct).2.2 other.1 (List.mem_map_of_mem earlier) name
      (List.mem_cons_self ..) same
  exact bne_iff_ne.2 apart.symm

theorem mem_insertAllIfNew {entries : List (String × α)} {table : Table α} {entry : String × α}
    (member : entry ∈ insertAllIfNew entries table) : entry ∈ table ∨ entry ∈ entries := by
  induction entries generalizing table with
  | nil => exact .inl member
  | cons first rest ih =>
    rw [List.mem_cons]
    rcases @ih (insertIfNew first.1 first.2 table) member with before | later
    · by_cases old : first.1 ∈ table.keys
      · rw [insertIfNew_of_old old] at before
        exact .inl before
      · rw [insertIfNew_of_new old, List.mem_append, List.mem_singleton] at before
        exact before.imp_right .inl
    · exact .inr (.inr later)

/-! ## Values that are there already -/

theorem insert_insert (name : String) (first second : α) (table : Table α) :
    insert name second (insert name first table) = insert name second table := by
  induction table with
  | nil => simp [insert]
  | cons entry rest ih =>
    by_cases same : entry.1 = name
    · simp [insert, same]
    · simp [insert, same, ih]

/-- Of two names, the one that the table has keeps its place whether it comes first or second. -/
theorem insert_comm {name other : String} (differ : name ≠ other) {table : Table α}
    (old : other ∈ table.keys) (value more : α) :
    insert other more (insert name value table) = insert name value (insert other more table) := by
  induction table with
  | nil => cases old
  | cons entry rest ih =>
    rw [keys, List.map_cons, List.mem_cons] at old
    by_cases here : entry.1 = name
    · have elsewhere : ¬ entry.1 = other := fun same => differ (here.symm.trans same)
      simp [insert, here, differ]
    · by_cases there : entry.1 = other
      · simp [insert, there, Ne.symm differ]
      · have later : other ∈ keys rest := old.resolve_left (Ne.symm there)
        simp [insert, here, there, ih later]

theorem mem_keys_insert_of_mem {name other : String} {table : Table α}
    (old : other ∈ table.keys) (value : α) : other ∈ (insert name value table).keys := by
  by_cases known : name ∈ table.keys
  · rwa [keys_insert_of_old known]
  · rw [insert_of_new known, keys_append]
    exact List.mem_append_left _ old

/-- What is replaced at the end may have had any value before. -/
theorem insert_insertAll {entries : List (String × α)} {table : Table α}
    (old : ∀ entry ∈ entries, entry.1 ∈ table.keys) (name : String) (first second : α) :
    insert name second (insertAll entries (insert name first table)) =
      insert name second (insertAll entries table) := by
  induction entries generalizing table with
  | nil => exact insert_insert name first second table
  | cons entry rest ih =>
    obtain ⟨here, later⟩ := List.forall_mem_cons.1 old
    have later' : ∀ other ∈ rest, other.1 ∈ (insert entry.1 entry.2 table).keys :=
      fun other member => mem_keys_insert_of_mem (later other member) entry.2
    change insert name second (insertAll rest (insert entry.1 entry.2 (insert name first table))) =
      insert name second (insertAll rest (insert entry.1 entry.2 table))
    by_cases same : name = entry.1
    · rw [← same, insert_insert]
    · rw [insert_comm same here, ih later']

theorem mem_keys_insertAll {entries : List (String × α)} {entry : String × α}
    (member : entry ∈ entries) (table : Table α) : entry.1 ∈ (insertAll entries table).keys := by
  rw [keys_insertAll, List.mem_append, List.mem_eraseDups, List.mem_filter]
  by_cases old : entry.1 ∈ table.keys
  · exact .inl old
  · exact .inr ⟨List.mem_map_of_mem member, by simpa using old⟩

/-- Entries that were all added are added again without effect. -/
theorem insertAll_twice (entries : List (String × α)) (table : Table α) :
    insertAll entries (insertAll entries table) = insertAll entries table := by
  induction entries using List.reverseRecOn with
  | nil => rfl
  | append_singleton entries entry ih =>
    have last (table : Table α) : insertAll (entries ++ [entry]) table =
        insert entry.1 entry.2 (insertAll entries table) := List.foldl_append
    rw [last, last,
      insert_insertAll (fun other member => mem_keys_insertAll member table) entry.1, ih]

end XmlBuilder.Table
