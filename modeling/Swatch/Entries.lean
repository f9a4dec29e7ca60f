/-!
# Entries in order

Values under keys, in the order in which the keys came first. Setting a key that is there already
changes its value and keeps its place. Main statements: a key that was set has that value
(`lookup_put_self`), and the others keep theirs (`lookup_put_of_ne`).
-/

namespace Swatch.Entries

variable {κ β : Type} [BEq κ]

/-- The entries with a key set to a value. -/
def put (entries : List (κ × β)) (key : κ) (value : β) : List (κ × β) :=
  match entries with
  | [] => [(key, value)]
  | entry :: rest =>
    if key == entry.1 then (entry.1, value) :: rest else entry :: put rest key value

/-- The entries with keys set to values, in turn. -/
def putAll (entries changes : List (κ × β)) : List (κ × β) :=
  changes.foldl (fun entries (key, value) => put entries key value) entries

/-- The entries that come from setting keys to values, in turn. -/
def ofList (changes : List (κ × β)) : List (κ × β) :=
  putAll [] changes

/-- A key that was set has the value it was set to. -/
theorem lookup_put_self [ReflBEq κ] (entries : List (κ × β)) (key : κ) (value : β) :
    (put entries key value).lookup key = some value := by
  induction entries with
  | nil => simp [put]
  | cons entry rest ih =>
    obtain ⟨own, stored⟩ := entry
    by_cases found : key == own <;> simp [put, List.lookup_cons, found, ih]

/-- The other keys keep their values. -/
theorem lookup_put_of_ne [LawfulBEq κ] (entries : List (κ × β)) {key other : κ} (value : β)
    (different : other ≠ key) : (put entries key value).lookup other = entries.lookup other := by
  induction entries with
  | nil =>
    have : (other == key) = false := by simp [different]
    simp [put, List.lookup_cons, this]
  | cons entry rest ih =>
    obtain ⟨own, stored⟩ := entry
    by_cases found : key == own
    · have : (other == own) = false := by simp_all
      simp [put, List.lookup_cons, found, this]
    · by_cases same : other == own <;> simp [put, List.lookup_cons, found, same, ih]

end Swatch.Entries
