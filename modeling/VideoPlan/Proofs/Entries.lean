/-!
# Entries under keys

Scopes, catalogs and the tables of the console are lists of entries under keys. What is found under a key is an entry
(`mem_of_lookup`), and where no key is there twice every entry is found under its key (`lookup_eq_some_iff_mem`).
-/

namespace VideoPlan

theorem lookup_entry (key key' : String) (x : α) (entries : List (String × α)) :
    ((key, x) :: entries).lookup key' = if key' = key then some x else entries.lookup key' := by
  rw [List.lookup_cons]
  by_cases same : key' = key
  · rw [if_pos same, beq_iff_eq.mpr same]
  · rw [if_neg same, beq_eq_false_iff_ne.mpr same]

variable [BEq κ] [LawfulBEq κ] {entries : List (κ × α)} {key : κ} {x : α}

theorem mem_of_lookup (found : entries.lookup key = some x) : (key, x) ∈ entries := by
  obtain ⟨before, after, rfl, -⟩ := List.lookup_eq_some_iff.mp found
  exact List.mem_append_right before List.mem_cons_self

/-- Under distinct keys an entry is what its key finds. -/
theorem lookup_eq_some_iff_mem (distinct : (entries.map (·.1)).Nodup) :
    entries.lookup key = some x ↔ (key, x) ∈ entries := by
  constructor
  · exact mem_of_lookup
  · intro member
    obtain ⟨before, after, rfl⟩ := List.append_of_mem member
    refine List.lookup_eq_some_iff.mpr ⟨before, after, rfl, ?_⟩
    -- an entry before it has another key
    intro earlier earlierMember
    rw [List.map_append, List.nodup_append] at distinct
    have differs := distinct.2.2 earlier.1 (List.mem_map_of_mem earlierMember) key
      (List.mem_map_of_mem List.mem_cons_self)
    exact bne_iff_ne.mpr differs.symm

end VideoPlan
