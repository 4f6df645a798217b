import PagedSelect.Keyed
/-!
# Laws of keyed lists

What stands under a key depends on its first entry only; under distinct keys the order of entries makes
no difference to it.
-/

namespace PagedSelect

variable {α : Type} {key : String} {entries : List (String × α)}

/-! ## Looking up -/

theorem mem_of_get? {a : α} (h : Keyed.get? key entries = some a) : (key, a) ∈ entries := by
  induction entries with
  | nil => cases h
  | cons e r ih =>
    rw [Keyed.get?] at h
    split at h
    · rename_i he
      cases h
      rw [← beq_iff_eq.1 he]
      exact List.mem_cons_self
    · exact List.mem_cons_of_mem _ (ih h)

theorem has_iff_mem_keys : Keyed.has key entries = true ↔ key ∈ Keyed.keys entries := by
  simp [Keyed.has, Keyed.keys]

theorem isSome_get? : (Keyed.get? key entries).isSome = Keyed.has key entries := by
  induction entries with
  | nil => rfl
  | cons e r ih =>
    rw [Keyed.get?, Keyed.has, List.any_cons]
    by_cases he : e.1 == key
    · simp [he]
    · rw [if_neg he, ih]
      simp [he, Keyed.has]

theorem get?_eq_none : Keyed.get? key entries = none ↔ key ∉ Keyed.keys entries := by
  rw [← has_iff_mem_keys, ← isSome_get?, Bool.not_eq_true, Option.isSome_eq_false_iff, Option.isNone_iff_eq_none]

theorem get?_append (key : String) (xs ys : List (String × α)) :
    Keyed.get? key (xs ++ ys) = (Keyed.get? key xs).or (Keyed.get? key ys) := by
  induction xs with
  | nil => rfl
  | cons e r ih =>
    rw [List.cons_append, Keyed.get?, Keyed.get?, ih]
    split <;> rfl

theorem get?_mapValues {β : Type} (f : String → α → β) (key : String) (entries : List (String × α)) :
    Keyed.get? key (entries.map fun e => (e.1, f e.1 e.2)) = (Keyed.get? key entries).map (f key) := by
  induction entries with
  | nil => rfl
  | cons e r ih =>
    rw [List.map_cons, Keyed.get?, Keyed.get?, ih]
    split
    · rename_i he
      rw [beq_iff_eq.1 he]
      rfl
    · rfl

/-! ## Renaming -/

/-- Entries with one key in place of another. -/
def Keyed.renamed (old new : String) (entries : List (String × α)) : List (String × α) :=
  entries.map fun e => (if e.1 = old then new else e.1, e.2)

variable {old new : String}

theorem get?_renamed (hold : key ≠ old) (hnew : key ≠ new) :
    Keyed.get? key (Keyed.renamed old new entries) = Keyed.get? key entries := by
  induction entries with
  | nil => rfl
  | cons e r ih =>
    rw [Keyed.renamed, List.map_cons, Keyed.get?, Keyed.get?, ← Keyed.renamed, ih]
    by_cases he : e.1 = old
    · simp [he, hold.symm, hnew.symm]
    · simp [he]

theorem get?_renamed_old (hne : old ≠ new) : Keyed.get? old (Keyed.renamed old new entries) = none := by
  refine get?_eq_none.2 fun h => ?_
  obtain ⟨e', he', hkey⟩ := List.mem_map.1 h
  obtain ⟨e, -, rfl⟩ := List.mem_map.1 he'
  dsimp only at hkey
  split at hkey
  · exact hne hkey.symm
  · rename_i he
    exact he hkey

theorem get?_renamed_new (hnew : new ∉ Keyed.keys entries) :
    Keyed.get? new (Keyed.renamed old new entries) = Keyed.get? old entries := by
  induction entries with
  | nil => rfl
  | cons e r ih =>
    simp only [Keyed.keys, List.map_cons, List.mem_cons, not_or] at hnew
    rw [Keyed.renamed, List.map_cons, Keyed.get?, Keyed.get?, ← Keyed.renamed, ih hnew.2]
    by_cases he : e.1 = old
    · simp [he]
    · simp [he, Ne.symm hnew.1]

theorem renamed_of_not_mem (hold : old ∉ Keyed.keys entries) : Keyed.renamed old new entries = entries := by
  refine (List.map_congr_left fun e he => ?_).trans (List.map_id _)
  have hne : e.1 ≠ old := fun heq => hold (heq ▸ List.mem_map_of_mem (f := Prod.fst) he)
  rw [if_neg hne]
  rfl

/-- What stands under either name is the same if only one of them is there. -/
theorem findSome?_renamed (hne : old ≠ new) (hone : ¬ (old ∈ Keyed.keys entries ∧ new ∈ Keyed.keys entries)) :
    [old, new].findSome? (Keyed.get? · (Keyed.renamed old new entries))
      = [old, new].findSome? (Keyed.get? · entries) := by
  by_cases hold : old ∈ Keyed.keys entries
  · have hnew : new ∉ Keyed.keys entries := fun hnew => hone ⟨hold, hnew⟩
    simp only [List.findSome?_cons, List.findSome?_nil, get?_renamed_old hne, get?_renamed_new hnew,
      get?_eq_none.2 hnew]
  · rw [renamed_of_not_mem hold]

/-! ## Distinct keys -/

theorem get?_of_mem {a : α} (hnd : (Keyed.keys entries).Nodup) (h : (key, a) ∈ entries) :
    Keyed.get? key entries = some a := by
  induction entries with
  | nil => cases h
  | cons e r ih =>
    obtain ⟨he, hr⟩ := List.nodup_cons.1 hnd
    rw [Keyed.get?]
    rcases List.mem_cons.1 h with rfl | h
    · simp
    · have hkey : key ∈ Keyed.keys r := List.mem_map_of_mem (f := (·.1)) h
      have hne : e.1 ≠ key := by
        rintro rfl
        exact he hkey
      rw [if_neg (by simpa using hne), ih hr h]

theorem get?_of_perm {others : List (String × α)} (h : entries.Perm others) (hnd : (Keyed.keys entries).Nodup)
    (key : String) : Keyed.get? key entries = Keyed.get? key others := by
  cases hk : Keyed.get? key others with
  | none =>
    have hkeys := (h.map (·.1)).mem_iff (a := key)
    exact get?_eq_none.2 fun hmem => get?_eq_none.1 hk (hkeys.1 hmem)
  | some a => exact get?_of_mem hnd (h.mem_iff.2 (mem_of_get? hk))

/-! ## Putting and erasing -/

/-- A key that is put keeps its place, or goes to the end. -/
theorem keys_put_eq (key : String) (a : α) (entries : List (String × α)) :
    Keyed.keys (Keyed.put key a entries)
      = if key ∈ Keyed.keys entries then Keyed.keys entries else Keyed.keys entries ++ [key] := by
  induction entries with
  | nil => rfl
  | cons e r ih =>
    have hkeys : Keyed.keys (e :: r) = e.1 :: Keyed.keys r := rfl
    rw [Keyed.put, hkeys]
    by_cases he : e.1 = key
    · rw [if_pos (by simpa using he), if_pos (by simp [he])]
      rfl
    · have hput : Keyed.keys ((e.1, e.2) :: Keyed.put key a r) = e.1 :: Keyed.keys (Keyed.put key a r) := rfl
      rw [if_neg (by simpa using he), hput, ih]
      by_cases hr : key ∈ Keyed.keys r
      · rw [if_pos hr, if_pos (List.mem_cons_of_mem _ hr)]
      · rw [if_neg hr, if_neg (by simp [Ne.symm he, hr]), List.cons_append]

theorem nodup_keys_put (key : String) (a : α) (h : (Keyed.keys entries).Nodup) :
    (Keyed.keys (Keyed.put key a entries)).Nodup := by
  rw [keys_put_eq]
  split
  · exact h
  · rename_i hkey
    refine List.nodup_append.2 ⟨h, List.nodup_cons.2 ⟨List.not_mem_nil, List.nodup_nil⟩, ?_⟩
    rintro k hk _ hlast rfl
    exact hkey (List.mem_singleton.1 hlast ▸ hk)

theorem eq_or_mem_of_mem_put {a : α} {e : String × α} (h : e ∈ Keyed.put key a entries) :
    e = (key, a) ∨ e ∈ entries := by
  induction entries with
  | nil => exact .inl (List.mem_singleton.1 h)
  | cons e' r ih =>
    rw [Keyed.put] at h
    split at h
    · rename_i he
      rcases List.mem_cons.1 h with rfl | h
      · exact .inl (by rw [beq_iff_eq.1 he])
      · exact .inr (List.mem_cons_of_mem _ h)
    · rcases List.mem_cons.1 h with rfl | h
      · exact .inr List.mem_cons_self
      · exact (ih h).imp_right (List.mem_cons_of_mem _)

/-- What is put stands under its key; under the others all is as before. -/
theorem get?_put (key other : String) (a : α) (entries : List (String × α)) :
    Keyed.get? other (Keyed.put key a entries) = if key = other then some a else Keyed.get? other entries := by
  induction entries with
  | nil => simp [Keyed.put, Keyed.get?]
  | cons e r ih =>
    rw [Keyed.put, Keyed.get?]
    by_cases he : e.1 = key
    · subst he
      by_cases hk : e.1 = other <;> simp [Keyed.get?, hk]
    · rw [if_neg (by simpa using he), Keyed.get?, ih]
      by_cases hk : key = other
      · subst hk
        simp [he]
      · simp [hk]

theorem keys_erase (key : String) (entries : List (String × α)) :
    Keyed.keys (Keyed.erase key entries) = (Keyed.keys entries).filter (· != key) := by
  simp [Keyed.keys, Keyed.erase, List.filter_map, Function.comp_def]

theorem nodup_keys_erase (key : String) (h : (Keyed.keys entries).Nodup) :
    (Keyed.keys (Keyed.erase key entries)).Nodup := by
  rw [keys_erase]
  exact h.filter _

/-- Nothing stands under a key that is erased; under the others all is as before. -/
theorem get?_erase (key other : String) (entries : List (String × α)) :
    Keyed.get? other (Keyed.erase key entries) = if key = other then none else Keyed.get? other entries := by
  induction entries with
  | nil => simp [Keyed.erase, Keyed.get?]
  | cons e r ih =>
    rw [Keyed.erase, List.filter_cons, ← Keyed.erase, Keyed.get?]
    by_cases he : e.1 = key
    · subst he
      rw [if_neg (by simp), ih]
      by_cases hk : e.1 = other <;> simp [hk]
    · rw [if_pos (by simpa using he), Keyed.get?, ih]
      by_cases hk : key = other
      · subst hk
        simp [he]
      · simp [hk]

/-- Entries under distinct keys are kept as they are. -/
theorem ofList_of_nodup (h : (Keyed.keys entries).Nodup) :
    Keyed.ofList entries = entries := by
  have put_new {key : String} {a : α} {acc : List (String × α)} (hk : key ∉ Keyed.keys acc) :
      Keyed.put key a acc = acc ++ [(key, a)] := by
    induction acc with
    | nil => rfl
    | cons e r ih =>
      simp only [Keyed.keys, List.map_cons, List.mem_cons, not_or] at hk
      have hne : ¬ (e.1 == key) = true := by simpa using Ne.symm hk.1
      rw [Keyed.put, if_neg hne, ih hk.2, List.cons_append]
  have foldl_put (acc rest : List (String × α)) (hnd : (Keyed.keys (acc ++ rest)).Nodup) :
      rest.foldl (fun acc e => Keyed.put e.1 e.2 acc) acc = acc ++ rest := by
    induction rest generalizing acc with
    | nil => simp
    | cons e r ih =>
      have he : e.1 ∉ Keyed.keys acc := by
        simp only [Keyed.keys, List.map_append, List.map_cons] at hnd
        exact fun he => (List.nodup_append.1 hnd).2.2 _ he _ (by simp) rfl
      rw [List.foldl_cons, put_new he, ih _ (by simpa using hnd)]
      simp
  exact foldl_put [] entries h

end PagedSelect
