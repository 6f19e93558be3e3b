/-!
# Entries sorted by key

Objects and records are lists of entries in ascending order of their keys, with one entry for each key.
Keys are compared character by character, which is also the order of their UTF-8 bytes.

## Main definitions

- `Entries.insert`, `Entries.ofList`, `Entries.find?`
- `Entries.Sorted` — the order that they keep
-/

namespace SqlFormula.Entries

variable {α : Type}

/-- Puts an entry in its place; it takes the place of an entry with the same key. -/
def insert (key : String) (a : α) : List (String × α) → List (String × α)
  | [] => [(key, a)]
  | (k, b) :: rest =>
    if key < k then (key, a) :: (k, b) :: rest
    else if key = k then (key, a) :: rest
    else (k, b) :: insert key a rest

/-- The entries of a list in any order; of two with the same key the later one counts. -/
def ofList (entries : List (String × α)) : List (String × α) :=
  entries.foldl (fun sorted (key, a) => insert key a sorted) []

/-- What belongs to a key. -/
def find? (key : String) (entries : List (String × α)) : Option α :=
  entries.lookup key

/-- The keys ascend. -/
def Sorted (entries : List (String × α)) : Prop :=
  (entries.map Prod.fst).Pairwise (· < ·)

instance (entries : List (String × α)) : Decidable (Sorted entries) :=
  inferInstanceAs (Decidable (List.Pairwise _ _))

theorem mem_keys_insert {key k : String} {a : α} {entries : List (String × α)}
    (h : k ∈ (insert key a entries).map Prod.fst) : k = key ∨ k ∈ entries.map Prod.fst := by
  induction entries with
  | nil => simpa [insert] using h
  | cons e rest ih =>
    obtain ⟨k', b⟩ := e
    simp only [insert] at h
    split at h
    · simpa using h
    · split at h
      · -- an entry with the key is replaced
        next heq =>
        simp only [List.map_cons, List.mem_cons] at h ⊢
        rcases h with h | h
        · exact .inl h
        · exact .inr (.inr h)
      · simp only [List.map_cons, List.mem_cons] at h ⊢
        rcases h with h | h
        · exact .inr (.inl h)
        · rcases ih h with h | h
          · exact .inl h
          · exact .inr (.inr h)

theorem sorted_insert (key : String) (a : α) {entries : List (String × α)} (h : Sorted entries) :
    Sorted (insert key a entries) := by
  induction entries with
  | nil => simp [Sorted, insert]
  | cons e rest ih =>
    obtain ⟨k, b⟩ := e
    simp only [Sorted, List.map_cons, List.pairwise_cons] at h
    simp only [insert]
    split
    · next hlt =>
      simp only [Sorted, List.map_cons, List.pairwise_cons]
      refine ⟨?_, h⟩
      intro k' hk'
      rcases List.mem_cons.1 hk' with rfl | hk'
      · exact hlt
      · exact String.lt_trans hlt (h.1 k' hk')
    · next hlt =>
      split
      · next heq =>
        subst heq
        simpa [Sorted] using h
      · next hne =>
        simp only [Sorted, List.map_cons, List.pairwise_cons]
        -- the key is neither smaller nor equal, so it belongs behind this entry
        refine ⟨?_, ih h.2⟩
        intro k' hk'
        rcases mem_keys_insert hk' with rfl | hk'
        · exact Std.lt_of_le_of_ne (Std.not_lt.1 hlt) (Ne.symm hne)
        · exact h.1 k' hk'

theorem sorted_ofList (entries : List (String × α)) : Sorted (ofList entries) := by
  unfold ofList
  suffices ∀ sorted : List (String × α), Sorted sorted →
      Sorted (entries.foldl (fun sorted (key, a) => insert key a sorted) sorted) from
    this [] (by simp [Sorted])
  induction entries with
  | nil => exact fun _ h => h
  | cons e rest ih => exact fun sorted h => ih _ (sorted_insert e.1 e.2 h)

end SqlFormula.Entries
