import Mathlib.Data.List.Basic

/-!
# Open addressing with linear probing

A table is a list of `n` cells, and the value `free` marks a cell without a key. A key is looked
for from the cell that its hash names on, cell by cell around the table, until it or a free cell
is met. `Chained` is the invariant that makes this right: no free cell lies between the cell a key
hashes to and the cell that holds it. A probe ends as soon as one cell is free.
-/

namespace VxSqlite.Probing

variable {κ : Type} (free : κ)

/-- The content of a cell; there is nothing past the end of the table. -/
def cell (table : List κ) (i : Nat) : κ := table[i]?.getD free

/-- From cell `h` on, the first cell that is free or holds `key`, within `fuel` cells. -/
def probe [DecidableEq κ] (n : Nat) (table : List κ) (key : κ) : Nat → Nat → Option Nat
  | 0, _ => none
  | fuel + 1, h =>
      if cell free table h = free ∨ cell free table h = key then some h
      else probe n table key fuel ((h + 1) % n)

/-- The cells from the one `key` hashes to up to cell `k` are taken. -/
def Path (hash : κ → Nat) (n : Nat) (table : List κ) (key : κ) (k : Nat) : Prop :=
  ∃ d, (hash key + d) % n = k ∧ ∀ m < d, cell free table ((hash key + m) % n) ≠ free

/-- Every key is reached from the cell it hashes to. -/
structure Chained (hash : κ → Nat) (n : Nat) (table : List κ) : Prop where
  length : table.length = n
  path : ∀ k, cell free table k ≠ free → Path free hash n table (cell free table k) k

variable {free} {hash : κ → Nat} {n : Nat} {table : List κ}

theorem cell_of_lt {i : Nat} (h : i < table.length) : cell free table i = table[i] := by
  simp [cell, List.getElem?_eq_getElem h]

theorem lt_of_cell_ne {i : Nat} (h : cell free table i ≠ free) : i < table.length := by
  by_contra hlen
  exact h (by simp [cell, List.getElem?_eq_none (Nat.le_of_not_lt hlen)])

/-- A key is in the table exactly if some cell holds it. -/
theorem mem_iff_cell {key : κ} (hkey : key ≠ free) :
    key ∈ table ↔ ∃ i, cell free table i = key := by
  constructor
  · intro hmem
    obtain ⟨i, hi, heq⟩ := List.getElem_of_mem hmem
    exact ⟨i, by rw [cell_of_lt hi, heq]⟩
  · intro h
    obtain ⟨i, heq⟩ := h
    have hi : i < table.length := lt_of_cell_ne (by rw [heq]; exact hkey)
    rw [← heq, cell_of_lt hi]
    exact List.getElem_mem hi

theorem cell_set {i k : Nat} {key : κ} (hk : k < table.length) :
    cell free (table.set k key) i = if k = i then key else cell free table i := by
  simp only [cell, List.getElem?_set, hk, if_true]
  split_ifs <;> rfl

/-- An empty table is chained. -/
theorem chained_replicate (hash : κ → Nat) (n : Nat) :
    Chained free hash n (List.replicate n free) := by
  refine ⟨List.length_replicate, ?_⟩
  intro k hk
  exfalso
  apply hk
  simp only [cell, List.getElem?_replicate]
  split_ifs <;> rfl

/-- Storing a key at a free cell on its path keeps all the others reachable. -/
theorem Chained.insert (hchain : Chained free hash n table) {key : κ} {k : Nat} (hk : k < n)
    (hpath : Path free hash n table key k) (hkey : key ≠ free) :
    Chained free hash n (table.set k key) := by
  have hlt : k < table.length := by rw [hchain.length]; exact hk
  have htaken : ∀ i, cell free table i ≠ free → cell free (table.set k key) i ≠ free := by
    intro i hi
    rw [cell_set hlt]
    split_ifs with heq
    · exact hkey
    · exact hi
  refine ⟨by rw [List.length_set, hchain.length], ?_⟩
  intro i hi
  rw [cell_set hlt] at hi ⊢
  split_ifs at hi ⊢ with heq
  · subst heq
    obtain ⟨d, hd, hpassed⟩ := hpath
    exact ⟨d, hd, fun m hm => htaken _ (hpassed m hm)⟩
  · obtain ⟨d, hd, hpassed⟩ := hchain.path i hi
    exact ⟨d, hd, fun m hm => htaken _ (hpassed m hm)⟩

/-- What the table holds after a key is stored at a free cell. -/
theorem mem_set_iff {free : κ} {table : List κ} {key x : κ} {k : Nat} (hk : k < table.length)
    (hfree : cell free table k = free) (hx : x ≠ free) :
    x ∈ table.set k key ↔ x = key ∨ x ∈ table := by
  rw [mem_iff_cell hx, mem_iff_cell hx]
  constructor
  · intro h
    obtain ⟨i, hi⟩ := h
    rw [cell_set hk] at hi
    split_ifs at hi with heq
    · exact Or.inl hi.symm
    · exact Or.inr ⟨i, hi⟩
  · intro h
    rcases h with rfl | ⟨i, hi⟩
    · exact ⟨k, by rw [cell_set hk, if_pos rfl]⟩
    · have hne : k ≠ i := by
        intro heq
        rw [heq, hi] at hfree
        exact hx hfree
      exact ⟨i, by rw [cell_set hk, if_neg hne, hi]⟩

variable [DecidableEq κ]

/-- What a probe that ends has passed. -/
theorem probe_eq_some {key : κ} {fuel h k : Nat} (hh : h < n)
    (hprobe : probe free n table key fuel h = some k) :
    ∃ d, (h + d) % n = k ∧ (cell free table k = free ∨ cell free table k = key) ∧
      ∀ m < d, cell free table ((h + m) % n) ≠ free ∧ cell free table ((h + m) % n) ≠ key := by
  induction fuel generalizing h with
  | zero => cases hprobe
  | succ fuel ih =>
      rw [probe] at hprobe
      split_ifs at hprobe with hstop
      · cases hprobe
        exact ⟨0, by rw [Nat.add_zero, Nat.mod_eq_of_lt hh], hstop, by omega⟩
      · obtain ⟨d, hd, hend, hpassed⟩ := ih (Nat.mod_lt _ (by omega)) hprobe
        refine ⟨d + 1, ?_, hend, ?_⟩
        · rw [← hd, Nat.mod_add_mod]
          congr 1
          omega
        · intro m hm
          cases m with
          | zero =>
              rw [Nat.add_zero, Nat.mod_eq_of_lt hh]
              exact not_or.mp hstop
          | succ m =>
              have := hpassed m (by omega)
              rwa [Nat.mod_add_mod, show h + 1 + m = h + (m + 1) from by omega] at this

/-- A probe that has a cell to stop at within its fuel ends. -/
theorem exists_probe {key : κ} {fuel h d : Nat} (hh : h < n) (hd : d < fuel)
    (hstop : cell free table ((h + d) % n) = free ∨ cell free table ((h + d) % n) = key) :
    ∃ k, probe free n table key fuel h = some k := by
  induction fuel generalizing h d with
  | zero => omega
  | succ fuel ih =>
      rw [probe]
      split_ifs with hfirst
      · exact ⟨h, rfl⟩
      · cases d with
        | zero =>
            rw [Nat.add_zero, Nat.mod_eq_of_lt hh] at hstop
            exact absurd hstop hfirst
        | succ d =>
            have hmod : ((h + 1) % n + d) % n = (h + (d + 1)) % n := by
              rw [Nat.mod_add_mod]
              congr 1
              omega
            exact ih (Nat.mod_lt _ (by omega)) (Nat.lt_of_succ_lt_succ hd) (by rwa [hmod])

/-- Every cell is met within one round. -/
theorem exists_distance {h k : Nat} (hh : h < n) (hk : k < n) : ∃ d < n, (h + d) % n = k := by
  by_cases hle : h ≤ k
  · exact ⟨k - h, by omega, by rw [show h + (k - h) = k from by omega, Nat.mod_eq_of_lt hk]⟩
  · refine ⟨k + n - h, by omega, ?_⟩
    rw [show h + (k + n - h) = k + n from by omega, Nat.add_mod_right, Nat.mod_eq_of_lt hk]

/-- In a table with a free cell a probe ends: at the key if the table holds it, and otherwise at a
free cell on its path. -/
theorem Chained.probe (hchain : Chained free hash n table) {key : κ} (hkey : key ≠ free)
    (hfree : ∃ k < n, cell free table k = free) (hhash : hash key < n) :
    ∃ k < n, probe free n table key n (hash key) = some k ∧ Path free hash n table key k ∧
      (key ∈ table → cell free table k = key) ∧ (key ∉ table → cell free table k = free) := by
  obtain ⟨k₀, hk₀, hfree⟩ := hfree
  obtain ⟨d₀, hd₀, heq⟩ := exists_distance hhash hk₀
  obtain ⟨k, hprobe⟩ : ∃ k, Probing.probe free n table key n (hash key) = some k :=
    exists_probe hhash hd₀ (by rw [heq]; exact Or.inl hfree)
  obtain ⟨d, hd, hend, hpassed⟩ := probe_eq_some hhash hprobe
  refine ⟨k, by rw [← hd]; exact Nat.mod_lt _ (by omega), hprobe,
    ⟨d, hd, fun m hm => (hpassed m hm).1⟩, ?_, ?_⟩
  · intro hmem
    rcases hend with hstop | hfound
    · -- the key lies on a chain of taken cells, which the probe followed
      exfalso
      obtain ⟨i, hi⟩ := (mem_iff_cell hkey).mp hmem
      obtain ⟨e, he, hchained⟩ := hchain.path i (by rw [hi]; exact hkey)
      rw [hi] at he hchained
      rcases Nat.lt_trichotomy d e with hlt | heq | hlt
      · exact hchained d hlt (by rw [hd]; exact hstop)
      · rw [← heq, hd] at he
        exact hkey (by rw [← hi, ← he, hstop])
      · exact (hpassed e hlt).2 (by rw [he]; exact hi)
    · exact hfound
  · intro hmem
    rcases hend with hstop | hfound
    · exact hstop
    · exact absurd ((mem_iff_cell hkey).mpr ⟨k, hfound⟩) hmem

/-- The keys of a table. -/
def keys (free : κ) (table : List κ) : List κ := table.filter (· ≠ free)

/-- A key stored at a free cell is one more key. -/
theorem length_keys_set {key : κ} {k : Nat} (hk : k < table.length)
    (hfree : cell free table k = free) (hkey : key ≠ free) :
    (keys free (table.set k key)).length = (keys free table).length + 1 := by
  rw [cell_of_lt hk] at hfree
  have hsplit : table = table.take k ++ free :: table.drop (k + 1) := by
    rw [← hfree, ← List.drop_eq_getElem_cons, List.take_append_drop]
  rw [keys, keys, List.set_eq_take_append_cons_drop, if_pos hk]
  nth_rewrite 3 [hsplit]
  simp [hkey]
  omega

/-- The next free cell on the path of a key is found by a probe for `free`. -/
theorem probe_free (key : κ) (hfree : ∃ k < n, cell free table k = free) (hhash : hash key < n) :
    ∃ k < n, probe free n table free n (hash key) = some k ∧ Path free hash n table key k ∧
      cell free table k = free := by
  obtain ⟨k₀, hk₀, hfree⟩ := hfree
  obtain ⟨d₀, hd₀, heq⟩ := exists_distance hhash hk₀
  obtain ⟨k, hprobe⟩ : ∃ k, probe free n table free n (hash key) = some k :=
    exists_probe hhash hd₀ (by rw [heq]; exact Or.inl hfree)
  obtain ⟨d, hd, hend, hpassed⟩ := probe_eq_some hhash hprobe
  exact ⟨k, by rw [← hd]; exact Nat.mod_lt _ (by omega), hprobe,
    ⟨d, hd, fun m hm => (hpassed m hm).1⟩, hend.elim id id⟩

/-- A table with fewer keys than cells has a free cell. -/
theorem exists_free (hlength : table.length = n) (hkeys : (keys free table).length < n) :
    ∃ k < n, cell free table k = free := by
  by_contra hnone
  push Not at hnone
  have hall : keys free table = table := by
    apply List.filter_eq_self.mpr
    intro x hx
    obtain ⟨i, hi, heq⟩ := List.getElem_of_mem hx
    have := hnone i (by omega)
    rw [cell_of_lt hi, heq] at this
    simpa using this
  rw [hall] at hkeys
  omega

end VxSqlite.Probing
