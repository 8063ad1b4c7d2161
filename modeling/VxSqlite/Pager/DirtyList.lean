import Mathlib.Data.List.Basic

/-!
# The sorted list of dirty pages

The merge sort of `pcache.c`, which puts the dirty pages in the order of their numbers before they
are written to the database. The sort takes the pages one by one and keeps sorted runs in 32
buckets, each run merged into the next bucket when its own is taken; a page is carried along the
buckets like a digit of a binary counter. A list linked by `pDirty` is a list here.
-/

namespace VxSqlite

variable {PgHdr : Type} (pgno : PgHdr → Nat)

/-- The turns of the loop of `pcacheMergeDirtyList` up to the one that takes the head `a` of the
list `pA`; `rest` merges what is left of `pA` with what is left of `pB`. -/
def mergeDirtyHead (a : PgHdr) (rest : List PgHdr → List PgHdr) : List PgHdr → List PgHdr
  | [] => a :: rest []
  | b :: pB =>
      if pgno a < pgno b then a :: rest (b :: pB) else b :: mergeDirtyHead a rest pB

/-- Merge two lists of pages that are in the order of their numbers. -/
def pcacheMergeDirtyList : List PgHdr → List PgHdr → List PgHdr
  | [] => fun pB => pB
  | a :: pA => mergeDirtyHead pgno a (pcacheMergeDirtyList pA)

/-- `N_SORT_BUCKET`. -/
def nSortBucket : Nat := 32

/-- The inner loop of `pcacheSortDirtyList`, from one bucket on: the run `p` goes into the first
free bucket, merged with the runs of the buckets before it. The last bucket takes everything. -/
def sortDirtyCarry : List (List PgHdr) → List PgHdr → List (List PgHdr)
  | [], _ => []
  | [last], p => [pcacheMergeDirtyList pgno last p]
  | a :: b :: rest, p =>
      if a = [] then p :: b :: rest
      else [] :: sortDirtyCarry (b :: rest) (pcacheMergeDirtyList pgno a p)

/-- Sort a list of pages by number. -/
def pcacheSortDirtyList (pIn : List PgHdr) : List PgHdr :=
  let a := pIn.foldl (fun a p => sortDirtyCarry pgno a [p]) (List.replicate nSortBucket [])
  a.tail.foldl (pcacheMergeDirtyList pgno) (a.headD [])

/-- In the order of the page numbers. -/
def PgnoOrder (pages : List PgHdr) : Prop := pages.Pairwise fun p q => pgno p ≤ pgno q

variable {pgno}

theorem mergeDirtyHead_perm {a : PgHdr} {pA : List PgHdr} {rest : List PgHdr → List PgHdr}
    (hrest : ∀ pB, (rest pB).Perm (pA ++ pB)) (pB : List PgHdr) :
    (mergeDirtyHead pgno a rest pB).Perm (a :: pA ++ pB) := by
  induction pB with
  | nil => exact (hrest []).cons a
  | cons b pB ih =>
      rw [mergeDirtyHead]
      split_ifs with hlt
      · exact (hrest (b :: pB)).cons a
      · exact (ih.cons b).trans List.perm_middle.symm

/-- A merge keeps all the pages of both lists. -/
theorem pcacheMergeDirtyList_perm (pA pB : List PgHdr) :
    (pcacheMergeDirtyList pgno pA pB).Perm (pA ++ pB) := by
  induction pA generalizing pB with
  | nil => exact List.Perm.refl pB
  | cons a pA ih => exact mergeDirtyHead_perm ih pB

theorem mergeDirtyHead_order {a : PgHdr} {pA : List PgHdr} {rest : List PgHdr → List PgHdr}
    (hperm : ∀ pB, (rest pB).Perm (pA ++ pB))
    (horder : ∀ pB, PgnoOrder pgno pB → PgnoOrder pgno (rest pB))
    (hA : ∀ p ∈ pA, pgno a ≤ pgno p) {pB : List PgHdr} (hB : PgnoOrder pgno pB) :
    PgnoOrder pgno (mergeDirtyHead pgno a rest pB) := by
  induction pB with
  | nil =>
      refine List.pairwise_cons.mpr ⟨?_, horder [] hB⟩
      intro p hp
      exact hA p (by simpa using (hperm []).subset hp)
  | cons b pB ih =>
      obtain ⟨hb, hB'⟩ := List.pairwise_cons.mp hB
      rw [mergeDirtyHead]
      split_ifs with hlt
      · refine List.pairwise_cons.mpr ⟨?_, horder (b :: pB) hB⟩
        intro p hp
        have hp := (hperm (b :: pB)).subset hp
        simp only [List.mem_append, List.mem_cons] at hp
        rcases hp with hp | rfl | hp
        · exact hA p hp
        · exact Nat.le_of_lt hlt
        · exact Nat.le_trans (Nat.le_of_lt hlt) (hb p hp)
      · refine List.pairwise_cons.mpr ⟨?_, ih hB'⟩
        intro p hp
        have hp := (mergeDirtyHead_perm hperm pB).subset hp
        simp only [List.cons_append, List.mem_cons, List.mem_append] at hp
        rcases hp with rfl | hp | hp
        · exact Nat.le_of_not_lt hlt
        · exact Nat.le_trans (Nat.le_of_not_lt hlt) (hA p hp)
        · exact hb p hp

/-- A merge of two lists in order is in order. -/
theorem pcacheMergeDirtyList_order {pA pB : List PgHdr} (hA : PgnoOrder pgno pA)
    (hB : PgnoOrder pgno pB) : PgnoOrder pgno (pcacheMergeDirtyList pgno pA pB) := by
  induction pA generalizing pB with
  | nil => exact hB
  | cons a pA ih =>
      obtain ⟨ha, hA'⟩ := List.pairwise_cons.mp hA
      exact mergeDirtyHead_order (pcacheMergeDirtyList_perm pA) (fun pB hB => ih hA' hB) ha hB

/-- A run that is carried into the buckets: nothing is lost, and all the runs stay in order. -/
theorem sortDirtyCarry_spec {a : List (List PgHdr)} {p : List PgHdr} (hne : a ≠ [])
    (ha : ∀ run ∈ a, PgnoOrder pgno run) (hp : PgnoOrder pgno p) :
    sortDirtyCarry pgno a p ≠ [] ∧ (∀ run ∈ sortDirtyCarry pgno a p, PgnoOrder pgno run) ∧
      (sortDirtyCarry pgno a p).flatten.Perm (p ++ a.flatten) := by
  fun_induction sortDirtyCarry pgno a p with
  | case1 => exact absurd rfl hne
  | case2 last p =>
      refine ⟨by simp, ?_, ?_⟩
      · intro run hrun
        rw [List.mem_singleton.mp hrun]
        exact pcacheMergeDirtyList_order (ha last (by simp)) hp
      · simpa using (pcacheMergeDirtyList_perm last p).trans List.perm_append_comm
  | case3 b rest p =>
      refine ⟨by simp, ?_, by simp⟩
      intro run hrun
      rcases List.mem_cons.mp hrun with rfl | hrun
      · exact hp
      · exact ha run (List.mem_cons_of_mem _ hrun)
  | case4 a b rest p htaken ih =>
      obtain ⟨-, horder, hperm⟩ := ih (by simp)
        (fun run hrun => ha run (List.mem_cons_of_mem _ hrun))
        (pcacheMergeDirtyList_order (ha a (by simp)) hp)
      refine ⟨by simp, ?_, ?_⟩
      · intro run hrun
        rcases List.mem_cons.mp hrun with rfl | hrun
        · exact List.Pairwise.nil
        · exact horder run hrun
      · rw [List.flatten_cons, List.nil_append, List.flatten_cons, ← List.append_assoc]
        have hmerged : (pcacheMergeDirtyList pgno a p).Perm (p ++ a) :=
          (pcacheMergeDirtyList_perm a p).trans List.perm_append_comm
        exact hperm.trans (hmerged.append_right _)

/-- The runs that the pages are collected in. -/
theorem foldl_sortDirtyCarry_spec (pIn : List PgHdr) {a : List (List PgHdr)} (hne : a ≠ [])
    (ha : ∀ run ∈ a, PgnoOrder pgno run) :
    pIn.foldl (fun a p => sortDirtyCarry pgno a [p]) a ≠ [] ∧
      (∀ run ∈ pIn.foldl (fun a p => sortDirtyCarry pgno a [p]) a, PgnoOrder pgno run) ∧
      (pIn.foldl (fun a p => sortDirtyCarry pgno a [p]) a).flatten.Perm (pIn ++ a.flatten) := by
  induction pIn generalizing a with
  | nil => exact ⟨hne, ha, List.Perm.refl _⟩
  | cons p pIn ih =>
      obtain ⟨hne', ha', hperm'⟩ := sortDirtyCarry_spec hne ha (List.pairwise_singleton _ p)
      obtain ⟨hne'', ha'', hperm''⟩ := ih hne' ha'
      refine ⟨hne'', ha'', hperm''.trans ?_⟩
      exact (hperm'.append_left pIn).trans List.perm_middle

/-- Merging runs one after the other. -/
theorem foldl_merge_spec {runs : List (List PgHdr)} {p : List PgHdr} (hp : PgnoOrder pgno p)
    (hruns : ∀ run ∈ runs, PgnoOrder pgno run) :
    PgnoOrder pgno (runs.foldl (pcacheMergeDirtyList pgno) p) ∧
      (runs.foldl (pcacheMergeDirtyList pgno) p).Perm (p ++ runs.flatten) := by
  induction runs generalizing p with
  | nil => exact ⟨hp, by simp⟩
  | cons run runs ih =>
      obtain ⟨horder, hperm⟩ := ih (pcacheMergeDirtyList_order hp (hruns run (by simp)))
        (fun run hrun => hruns run (List.mem_cons_of_mem _ hrun))
      refine ⟨horder, hperm.trans ?_⟩
      rw [List.flatten_cons, ← List.append_assoc]
      exact (pcacheMergeDirtyList_perm p run).append_right _

/-- The sort merges runs that hold all pages. -/
theorem pcacheSortDirtyList_runs (pIn : List PgHdr) :
    ∃ (first : List PgHdr) (rest : List (List PgHdr)),
    pcacheSortDirtyList pgno pIn = rest.foldl (pcacheMergeDirtyList pgno) first ∧
      PgnoOrder pgno first ∧ (∀ run ∈ rest, PgnoOrder pgno run) ∧
      (first ++ rest.flatten).Perm pIn := by
  have hempty : ∀ run ∈ List.replicate nSortBucket ([] : List PgHdr), PgnoOrder pgno run := by
    intro run hrun
    rw [List.eq_of_mem_replicate hrun]
    exact List.Pairwise.nil
  obtain ⟨hne, hruns, hperm⟩ := foldl_sortDirtyCarry_spec pIn (by simp [nSortBucket])
    hempty
  unfold pcacheSortDirtyList
  generalize pIn.foldl (fun a p => sortDirtyCarry pgno a [p]) (List.replicate nSortBucket []) = a
    at hne hruns hperm
  cases a with
  | nil => exact absurd rfl hne
  | cons first rest =>
      exact ⟨first, rest, rfl, hruns first (by simp),
        fun run hrun => hruns run (List.mem_cons_of_mem _ hrun), by simpa using hperm⟩

theorem pcacheSortDirtyList_perm (pIn : List PgHdr) :
    (pcacheSortDirtyList pgno pIn).Perm pIn := by
  obtain ⟨first, rest, hsort, hfirst, hrest, hperm⟩ := pcacheSortDirtyList_runs pIn
  rw [hsort]
  exact (foldl_merge_spec hfirst hrest).2.trans hperm

/-- The sort keeps every page, and puts the pages in the order of their numbers, however many there
are. -/
theorem pcacheSortDirtyList_sorts (pIn : List PgHdr) :
    PgnoOrder pgno (pcacheSortDirtyList pgno pIn) ∧ (pcacheSortDirtyList pgno pIn).Perm pIn := by
  refine ⟨?_, pcacheSortDirtyList_perm pIn⟩
  obtain ⟨first, rest, hsort, hfirst, hrest, -⟩ := pcacheSortDirtyList_runs pIn
  rw [hsort]
  exact (foldl_merge_spec hfirst hrest).1

end VxSqlite
