/-!
Tables from names to values, in the order in which the names came first.
-/
namespace XmlBuilder

abbrev Table (α : Type) := List (String × α)

namespace Table

variable {α : Type}

def find? (table : Table α) (name : String) : Option α :=
  table.lookup name

/-- Gives `name` a value. A name that has one keeps its place and loses the old value. -/
def insert (name : String) (value : α) : Table α → Table α
  | [] => [(name, value)]
  | (key, old) :: rest =>
    if key = name then (key, value) :: rest else (key, old) :: insert name value rest

/-- Gives `name` a value unless it has one. -/
def insertIfNew (name : String) (value : α) : Table α → Table α
  | [] => [(name, value)]
  | (key, old) :: rest =>
    if key = name then (key, old) :: rest else (key, old) :: insertIfNew name value rest

theorem find?_insert (table : Table α) (name : String) (value : α) (other : String) :
    find? (insert name value table) other =
      if other = name then some value else find? table other := by
  induction table with
  | nil => by_cases same : other = name <;> simp [insert, find?, same]
  | cons entry rest ih => grind [insert, find?]

end Table
end XmlBuilder
