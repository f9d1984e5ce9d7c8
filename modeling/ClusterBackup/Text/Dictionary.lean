import ClusterBackup.Json.Value

/-! Texts by key, in the order of the keys, each key once. Labels, annotations and
environments are such dictionaries. -/

set_option autoImplicit false

namespace ClusterBackup

structure Dictionary where
  entries : List (String × String)
  sorted : entries.Pairwise (fun a b => a.1 < b.1)
  deriving DecidableEq, Repr

namespace Dictionary

def insertEntry (key value : String) : List (String × String) → List (String × String)
  | [] => [(key, value)]
  | (k, v) :: rest =>
    if key < k then (key, value) :: (k, v) :: rest
    else if key = k then (key, value) :: rest
    else (k, v) :: insertEntry key value rest

theorem mem_insertEntry {key value : String} {entry : String × String} :
    {entries : List (String × String)} → entry ∈ insertEntry key value entries →
      entry = (key, value) ∨ entry ∈ entries
  | [], member => by simpa [insertEntry] using member
  | (k, v) :: rest, member => by
    rw [insertEntry] at member
    split at member
    · simpa using member
    · split at member
      · rcases List.mem_cons.mp member with same | inRest
        · exact .inl same
        · exact .inr (List.mem_cons_of_mem _ inRest)
      · rcases List.mem_cons.mp member with same | inRest
        · exact .inr (same ▸ List.mem_cons_self)
        · exact (mem_insertEntry inRest).imp id (List.mem_cons_of_mem _)

theorem sorted_insertEntry (key value : String) :
    (entries : List (String × String)) → entries.Pairwise (fun a b => a.1 < b.1) →
      (insertEntry key value entries).Pairwise (fun a b => a.1 < b.1)
  | [], _ => by simp [insertEntry]
  | (k, v) :: rest, order => by
    have below (entry : String × String) (member : entry ∈ rest) : k < entry.1 :=
      List.rel_of_pairwise_cons order member
    rw [insertEntry]
    split
    · rename_i less
      refine List.pairwise_cons.mpr ⟨fun entry member => ?_, order⟩
      rcases List.mem_cons.mp member with same | inRest
      · exact same ▸ less
      · exact String.lt_trans less (below _ inRest)
    · split
      · rename_i same
        exact List.pairwise_cons.mpr ⟨fun entry member => same ▸ below _ member, order.of_cons⟩
      · rename_i notLess notSame
        refine List.pairwise_cons.mpr ⟨fun entry member => ?_, sorted_insertEntry key value rest order.of_cons⟩
        rcases mem_insertEntry member with same | inRest
        · exact same ▸ Std.lt_of_le_of_ne (String.not_lt.mp notLess) (Ne.symm notSame)
        · exact below _ inRest

def empty : Dictionary := ⟨[], List.Pairwise.nil⟩

instance : Inhabited Dictionary := ⟨empty⟩

def insert (d : Dictionary) (key value : String) : Dictionary :=
  ⟨insertEntry key value d.entries, sorted_insertEntry key value d.entries d.sorted⟩

def get? (d : Dictionary) (key : String) : Option String :=
  (d.entries.find? (·.1 == key)).map (·.2)

def erase (d : Dictionary) (key : String) : Dictionary :=
  ⟨d.entries.filter (·.1 != key), d.sorted.filter _⟩

def isEmpty (d : Dictionary) : Bool := d.entries.isEmpty

/-- Of several entries with one key the last one counts. -/
def ofList (entries : List (String × String)) : Dictionary :=
  entries.foldl (fun d entry => d.insert entry.1 entry.2) empty

theorem find_insertEntry (key value other : String) :
    (entries : List (String × String)) →
      (insertEntry key value entries).find? (·.1 == other) =
        if key = other then some (key, value) else entries.find? (·.1 == other)
  | [] => by by_cases same : key = other <;> simp [insertEntry, same]
  | (k, v) :: rest => by
    have ih := find_insertEntry key value other rest
    rw [insertEntry]
    split
    · by_cases same : key = other <;> simp [List.find?_cons, same]
    · split
      · rename_i equal
        subst equal
        by_cases same : key = other <;> simp [same]
      · rename_i different
        by_cases same : key = other
        · subst same
          simp [ih, Ne.symm different]
        · by_cases hit : k = other <;> simp [ih, same, hit]

@[simp] theorem get?_insert (d : Dictionary) (key value other : String) :
    (d.insert key value).get? other = if key = other then some value else d.get? other := by
  rw [get?, insert, find_insertEntry]
  by_cases same : key = other <;> simp [same, get?]

def toJson (d : Dictionary) : Json := .object (d.entries.map fun entry => (entry.1, .string entry.2))

def ofJson? (j : Json) : Option Dictionary := do
  let entries ← (← j.members?).mapM fun (key, value) => return (key, ← value.text?)
  return ofList entries

end Dictionary

end ClusterBackup
