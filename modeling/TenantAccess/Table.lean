set_option autoImplicit false

namespace TenantAccess.Table

variable {α : Type}

def names (table : List (String × α)) : List String := table.map (·.1)

def lookup? (name : String) : List (String × α) → Option α
  | [] => none
  | (other, value) :: rest => if other = name then some value else lookup? name rest

/-- Sets the value under a name: in place if the name occurs, else at the end. -/
def insert (name : String) (value : α) : List (String × α) → List (String × α)
  | [] => [(name, value)]
  | (other, old) :: rest =>
    if other = name then (other, value) :: rest else (other, old) :: insert name value rest

/-- The table of a list of entries, each name at its first position under its last value. -/
def ofEntries (entries : List (String × α)) : List (String × α) :=
  entries.foldl (fun table entry => insert entry.1 entry.2 table) []

@[simp] theorem names_nil : names ([] : List (String × α)) = [] := rfl

@[simp] theorem names_cons (entry : String × α) (rest : List (String × α)) :
    names (entry :: rest) = entry.1 :: names rest := rfl

@[simp] theorem lookup?_nil (name : String) : lookup? name ([] : List (String × α)) = none := rfl

theorem mem_names_insert (name other : String) (value : α) (table : List (String × α)) :
    other ∈ names (insert name value table) ↔ other = name ∨ other ∈ names table := by
  induction table with
  | nil => simp [insert]
  | cons entry rest ih =>
    rcases entry with ⟨first, old⟩
    by_cases same : first = name
    · subst same
      simp [insert]
    · simp only [insert, same, ↓reduceIte, names_cons, List.mem_cons, ih]
      exact or_left_comm

theorem nodup_names_insert (name : String) (value : α) (table : List (String × α))
    (distinct : (names table).Nodup) : (names (insert name value table)).Nodup := by
  induction table with
  | nil => simp [insert]
  | cons entry rest ih =>
    rcases entry with ⟨first, old⟩
    simp only [names_cons, List.nodup_cons] at distinct
    by_cases same : first = name
    · simp only [insert, same, ↓reduceIte, names_cons, List.nodup_cons]
      exact ⟨same ▸ distinct.1, distinct.2⟩
    · simp only [insert, same, ↓reduceIte, names_cons, List.nodup_cons, mem_names_insert, not_or]
      exact ⟨⟨not_false, distinct.1⟩, ih distinct.2⟩

theorem nodup_names_foldl_insert (entries table : List (String × α))
    (distinct : (names table).Nodup) :
    (names (entries.foldl (fun table entry => insert entry.1 entry.2 table) table)).Nodup := by
  induction entries generalizing table with
  | nil => exact distinct
  | cons entry rest ih => exact ih _ (nodup_names_insert entry.1 entry.2 table distinct)

theorem nodup_names_ofEntries (entries : List (String × α)) : (names (ofEntries entries)).Nodup :=
  nodup_names_foldl_insert entries [] List.nodup_nil

theorem names_map_values {β : Type} (f : String × α → β) (table : List (String × α)) :
    names (table.map fun entry => (entry.1, f entry)) = names table := by
  induction table with
  | nil => rfl
  | cons entry rest ih => simp only [List.map_cons, names_cons, ih]

end TenantAccess.Table
