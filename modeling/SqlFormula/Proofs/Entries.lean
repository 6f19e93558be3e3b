import SqlFormula.Entries

/-!
# Entries that are added one by one

## Main statements

- `Entries.insert_of_forall_lt` — an entry after all others goes to the end
- `Entries.find?_of_forall_lt` — and its key is new
- `Entries.Sorted.forall_lt` — so it is with the entries of a sorted list
- `Entries.find?_ofList` — of several entries with one key the last counts
- `Entries.ofList_of_sorted` — a sorted list stays as it is
- `Entries.eq_of_sorted` — a sorted list is known by what belongs to each key
-/

namespace SqlFormula.Entries

variable {α : Type} {entries : List (String × α)} {key : String}

theorem insert_of_forall_lt (a : α) (h : ∀ e ∈ entries, e.1 < key) :
    insert key a entries = entries ++ [(key, a)] := by
  induction entries with
  | nil => rfl
  | cons e rest ih =>
    obtain ⟨k, b⟩ := e
    have hlt : k < key := h (k, b) List.mem_cons_self
    have hnot : ¬key < k := fun hgt => String.lt_irrefl k (String.lt_trans hlt hgt)
    have hne : key ≠ k := by
      rintro rfl
      exact String.lt_irrefl key hlt
    rw [insert, if_neg hnot, if_neg hne, ih fun e he => h e (List.mem_cons_of_mem _ he)]
    rfl

theorem find?_of_forall_lt (h : ∀ e ∈ entries, e.1 < key) : find? key entries = none := by
  refine List.lookup_eq_none_iff.2 fun e he => ?_
  refine bne_iff_ne.2 ?_
  rintro rfl
  exact String.lt_irrefl _ (h e he)

/-- In a sorted list every key is after those before it. -/
theorem Sorted.forall_lt {before rest : List (String × α)} {e : String × α} (h : Sorted (before ++ e :: rest)) :
    ∀ e' ∈ before, e'.1 < e.1 := by
  intro e' he'
  rw [Sorted, List.map_append, List.map_cons, List.pairwise_append] at h
  exact h.2.2 _ (List.mem_map_of_mem he') _ List.mem_cons_self

theorem mem_insert {a : α} {e : String × α} (h : e ∈ insert key a entries) : e = (key, a) ∨ e ∈ entries := by
  induction entries with
  | nil => exact .inl (List.mem_singleton.1 h)
  | cons e' rest ih =>
    obtain ⟨k, b⟩ := e'
    rw [insert] at h
    split at h
    · exact List.mem_cons.1 h
    · split at h
      · exact (List.mem_cons.1 h).imp_right (List.mem_cons_of_mem _)
      · obtain rfl | h := List.mem_cons.1 h
        · exact .inr List.mem_cons_self
        · exact (ih h).imp_right (List.mem_cons_of_mem _)

/-- It makes no difference whether what belongs to the keys is changed before or after. -/
theorem insert_map {β : Type} (f : α → β) (key : String) (a : α) (entries : List (String × α)) :
    insert key (f a) (entries.map fun e => (e.1, f e.2)) = (insert key a entries).map fun e => (e.1, f e.2) := by
  induction entries with
  | nil => rfl
  | cons e rest ih =>
    obtain ⟨k, b⟩ := e
    rw [List.map_cons, insert, insert, ih]
    split
    · rfl
    · split
      · rfl
      · rfl

/-- What fits to all others fits also in its place. -/
theorem pairwise_insert {R : α → α → Prop} (hsymm : ∀ {a b}, R a b → R b a) {a : α}
    (h : (entries.map Prod.snd).Pairwise R) (ha : ∀ e ∈ entries, R e.2 a) :
    ((insert key a entries).map Prod.snd).Pairwise R := by
  induction entries with
  | nil => exact List.pairwise_singleton R a
  | cons e rest ih =>
    obtain ⟨k, b⟩ := e
    obtain ⟨hb, hrest⟩ := List.pairwise_cons.1 h
    have hnew : ∀ c ∈ rest.map Prod.snd, R a c := by
      intro c hc
      obtain ⟨e, he, rfl⟩ := List.mem_map.1 hc
      exact hsymm (ha e (List.mem_cons_of_mem _ he))
    have hba : R b a := ha (k, b) List.mem_cons_self
    rw [insert]
    split
    · refine List.pairwise_cons.2 ⟨fun c hc => ?_, h⟩
      obtain rfl | hc := List.mem_cons.1 hc
      · exact hsymm hba
      · exact hnew c hc
    · split
      · -- `a` takes the place of `b`
        exact List.pairwise_cons.2 ⟨hnew, hrest⟩
      · refine List.pairwise_cons.2 ⟨fun c hc => ?_, ih hrest fun e he => ha e (List.mem_cons_of_mem _ he)⟩
        obtain ⟨e, he, rfl⟩ := List.mem_map.1 hc
        obtain rfl | he := mem_insert he
        · exact hba
        · exact hb e.2 (List.mem_map_of_mem he)

theorem find?_cons (k : String) (a : α) :
    find? k ((key, a) :: entries) = if k = key then some a else find? k entries := by
  rw [find?, List.lookup_cons]
  by_cases h : k = key
  · rw [if_pos h, beq_iff_eq.2 h]
  · rw [if_neg h, beq_eq_false_iff_ne.2 h]
    rfl

theorem find?_insert (k : String) (a : α) :
    find? k (insert key a entries) = if k = key then some a else find? k entries := by
  induction entries with
  | nil => rw [insert, find?_cons]
  | cons e rest ih =>
    obtain ⟨k', b⟩ := e
    rw [insert, find?_cons]
    split
    · rw [find?_cons, find?_cons]
    · split
      · next heq =>
        rw [find?_cons, ← heq]
        split
        · rfl
        · rfl
      · next hne =>
        rw [find?_cons, ih]
        by_cases h : k = k'
        · rw [if_pos h, if_pos h, if_neg fun hk => hne (hk.symm.trans h)]
        · rw [if_neg h, if_neg h]

/-- Of several entries with one key the last counts. -/
theorem find?_ofList (k : String) (entries : List (String × α)) :
    find? k (ofList entries) = find? k entries.reverse := by
  suffices ∀ before : List (String × α), find? k (entries.foldl (fun sorted e => insert e.1 e.2 sorted) before) =
      (find? k entries.reverse).or (find? k before) from
    (this []).trans (Option.or_none)
  induction entries with
  | nil => exact fun before => rfl
  | cons e rest ih =>
    obtain ⟨key, a⟩ := e
    intro before
    have hlast : find? k (rest.reverse ++ [(key, a)]) = (find? k rest.reverse).or (find? k [(key, a)]) :=
      List.lookup_append
    rw [List.foldl_cons, ih, find?_insert, List.reverse_cons, hlast, Option.or_assoc, find?_cons]
    split
    · rfl
    · rfl

theorem mem_ofList {e : String × α} (h : e ∈ ofList entries) : e ∈ entries := by
  suffices ∀ before : List (String × α), e ∈ entries.foldl (fun sorted e => insert e.1 e.2 sorted) before →
      e ∈ before ∨ e ∈ entries from
    (this [] h).resolve_left List.not_mem_nil
  clear h
  induction entries with
  | nil => exact fun before h => .inl h
  | cons e' rest ih =>
    intro before h
    obtain h | h := ih _ h
    · obtain rfl | h := mem_insert h
      · exact .inr List.mem_cons_self
      · exact .inl h
    · exact .inr (List.mem_cons_of_mem _ h)

/-- A sorted list stays as it is. -/
theorem ofList_of_sorted (h : Sorted entries) : ofList entries = entries := by
  suffices ∀ before : List (String × α), Sorted (before ++ entries) →
      entries.foldl (fun sorted e => insert e.1 e.2 sorted) before = before ++ entries from
    this [] h
  clear h
  induction entries with
  | nil => exact fun before _ => (List.append_nil before).symm
  | cons e rest ih =>
    intro before h
    rw [List.foldl_cons, insert_of_forall_lt e.2 h.forall_lt, ih _ (by rwa [List.append_assoc]), List.append_assoc]
    rfl

/-- What belongs to a key is in no doubt where the keys differ. -/
theorem find?_of_mem {a : α} (h : (entries.map Prod.fst).Nodup) (hmem : (key, a) ∈ entries) :
    find? key entries = some a := by
  induction entries with
  | nil => nomatch hmem
  | cons e rest ih =>
    obtain ⟨k, b⟩ := e
    obtain ⟨hnotMem, hnodup⟩ := List.nodup_cons.1 h
    rw [find?_cons]
    obtain heq | hrest := List.mem_cons.1 hmem
    · obtain ⟨rfl, rfl⟩ := Prod.mk.inj heq
      exact if_pos rfl
    · have hne : key ≠ k := by
        rintro rfl
        exact hnotMem (List.mem_map.2 ⟨_, hrest, rfl⟩)
      rw [if_neg hne, ih hnodup hrest]

theorem find?_isSome_of_mem {e : String × α} (h : e ∈ entries) : (find? e.1 entries).isSome := by
  induction entries with
  | nil => nomatch h
  | cons e' rest ih =>
    obtain ⟨k, b⟩ := e'
    rw [find?_cons]
    split
    · rfl
    · next hne =>
      obtain rfl | h := List.mem_cons.1 h
      · exact absurd rfl hne
      · exact ih h

theorem find?_of_forall_gt (h : ∀ e ∈ entries, key < e.1) : find? key entries = none := by
  refine List.lookup_eq_none_iff.2 fun e he => ?_
  refine bne_iff_ne.2 ?_
  rintro rfl
  exact String.lt_irrefl _ (h e he)

theorem sorted_cons {e : String × α} : Sorted (e :: entries) ↔ (∀ e' ∈ entries, e.1 < e'.1) ∧ Sorted entries := by
  rw [Sorted, List.map_cons, List.pairwise_cons, List.forall_mem_map]
  rfl

theorem mem_of_find? {a : α} (h : find? key entries = some a) : (key, a) ∈ entries := by
  obtain ⟨before, after, rfl, -⟩ := List.lookup_eq_some_iff.1 h
  exact List.mem_append_right _ List.mem_cons_self

/-- A sorted list is known by what belongs to each key. -/
theorem eq_of_sorted {entries' : List (String × α)} (h : Sorted entries) (h' : Sorted entries')
    (hfind : ∀ key, find? key entries = find? key entries') : entries = entries' := by
  induction entries generalizing entries' with
  | nil =>
    cases entries' with
    | nil => rfl
    | cons e' rest' =>
      have hhead := hfind e'.1
      rw [find?_cons, if_pos rfl] at hhead
      cases hhead
  | cons e rest ih =>
    cases entries' with
    | nil =>
      have hhead := hfind e.1
      rw [find?_cons, if_pos rfl] at hhead
      cases hhead
    | cons e' rest' =>
      obtain ⟨k, a⟩ := e
      obtain ⟨k', a'⟩ := e'
      obtain ⟨hlt, hrest⟩ := sorted_cons.1 h
      obtain ⟨hlt', hrest'⟩ := sorted_cons.1 h'
      -- otherwise each of the first keys would stand behind the other
      have hkey : k = k' := by
        refine Decidable.byContradiction fun hne => ?_
        have hfirst := hfind k
        have hfirst' := hfind k'
        rw [find?_cons, if_pos rfl, find?_cons, if_neg hne] at hfirst
        rw [find?_cons, if_neg (Ne.symm hne), find?_cons, if_pos rfl] at hfirst'
        have hgt : k' < k := hlt' _ (mem_of_find? hfirst.symm)
        exact String.lt_irrefl _ (String.lt_trans hgt (hlt _ (mem_of_find? hfirst')))
      subst hkey
      have hvalue := hfind k
      rw [find?_cons, if_pos rfl, find?_cons, if_pos rfl] at hvalue
      rw [Option.some.inj hvalue, ih hrest hrest' fun key => ?_]
      by_cases heq : key = k
      · rw [heq, find?_of_forall_gt hlt, find?_of_forall_gt hlt']
      · have hlater := hfind key
        rwa [find?_cons, if_neg heq, find?_cons, if_neg heq] at hlater

end SqlFormula.Entries
