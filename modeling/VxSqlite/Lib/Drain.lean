import Mathlib.Data.List.Basic
import Mathlib.Tactic.ByContra

/-!
# Handing a buffer over piece by piece

A sink takes as much of a buffer as it likes, or refuses it, and the loop that feeds it offers
the rest again until nothing is left. `offered` and `answer` follow the sink's answers without
end, so that `Stalls` can speak about the whole stream of them. The loop ends exactly if the
sink does not stall, whatever the sink does with its state.
-/

namespace VxSqlite.Drain

variable {α S : Type} (sink : List α → S → Option Nat × S)

/-- Offer the rest of the buffer at most `fuel` times. The result says whether the sink has
taken everything, and is `none` if the offers have been used up. -/
def drain : Nat → List α → S → Option (Bool × S)
  | _, [], s => some (true, s)
  | 0, _ :: _, _ => none
  | fuel + 1, cell :: rest, s =>
      match sink (cell :: rest) s with
      | (none, s) => some (false, s)
      | (some count, s) => drain fuel ((cell :: rest).drop count) s

/-- What is left of the buffer, and the sink's state, when the `n`-th offer is made. -/
def offered : Nat → List α → S → List α × S
  | 0, buffer, s => (buffer, s)
  | n + 1, buffer, s => offered n (buffer.drop ((sink buffer s).1.getD 0)) (sink buffer s).2

/-- The answer to the `n`-th offer, `none` for a refusal. -/
def answer (buffer : List α) (s : S) (n : Nat) : Option Nat :=
  (sink (offered sink n buffer s).1 (offered sink n buffer s).2).1

/-- From some offer on the sink takes nothing any more, with some of the buffer left and no
refusal before. -/
def Stalls (buffer : List α) (s : S) : Prop :=
  ∃ n, (offered sink n buffer s).1 ≠ [] ∧ (∀ i < n, answer sink buffer s i ≠ none) ∧
    ∀ k, n ≤ k → answer sink buffer s k = some 0

variable {sink}

/-- Once nothing is left, nothing is left for ever. -/
theorem offered_nil (n : Nat) (s : S) : (offered sink n [] s).1 = [] := by
  induction n generalizing s with
  | zero => rfl
  | succ n ih =>
      rw [offered, List.drop_nil]
      exact ih _

theorem not_stalls_nil (s : S) : ¬ Stalls sink [] s := by
  intro h
  obtain ⟨n, hleft, -⟩ := h
  exact hleft (offered_nil n s)

/-- A sink that refuses the first offer does not stall. -/
theorem not_stalls_of_refused {buffer : List α} {s : S} (h : (sink buffer s).1 = none) :
    ¬ Stalls sink buffer s := by
  intro hstalls
  obtain ⟨n, -, hbefore, hafter⟩ := hstalls
  have hfirst : answer sink buffer s 0 = none := h
  cases n with
  | zero =>
      rw [hafter 0 (Nat.le_refl 0)] at hfirst
      cases hfirst
  | succ n => exact hbefore 0 (Nat.succ_pos n) hfirst

/-- After an offer that was not refused, the sink stalls exactly if it stalls on the rest. -/
theorem stalls_step {buffer : List α} {s : S} {count : Nat} (hleft : buffer ≠ [])
    (h : (sink buffer s).1 = some count) :
    Stalls sink buffer s ↔ Stalls sink (buffer.drop count) (sink buffer s).2 := by
  have hnext : ∀ n, offered sink (n + 1) buffer s =
      offered sink n (buffer.drop count) (sink buffer s).2 := by
    intro n
    rw [offered, h, Option.getD_some]
  have hanswer : ∀ n, answer sink buffer s (n + 1) =
      answer sink (buffer.drop count) (sink buffer s).2 n := by
    intro n
    rw [answer, answer, hnext]
  constructor
  · intro hstalls
    obtain ⟨n, hrest, hbefore, hafter⟩ := hstalls
    cases n with
    | zero =>
        -- the first offer already took nothing, so the second is the same one again
        have hfirst : answer sink buffer s 0 = some 0 := hafter 0 (Nat.le_refl 0)
        have hzero : count = 0 := by
          have heq : some count = some 0 := h.symm.trans hfirst
          exact Option.some.inj heq
        subst hzero
        refine ⟨0, by simpa [offered] using hleft, by simp, ?_⟩
        intro k _
        rw [← hanswer]
        exact hafter (k + 1) (Nat.zero_le _)
    | succ n =>
        refine ⟨n, by rwa [← hnext], ?_, ?_⟩
        · intro i hi
          rw [← hanswer]
          exact hbefore (i + 1) (by omega)
        · intro k hk
          rw [← hanswer]
          exact hafter (k + 1) (by omega)
  · intro hstalls
    obtain ⟨n, hrest, hbefore, hafter⟩ := hstalls
    refine ⟨n + 1, by rwa [hnext], ?_, ?_⟩
    · intro i hi
      cases i with
      | zero =>
          show (sink buffer s).1 ≠ none
          rw [h]
          exact Option.some_ne_none count
      | succ i =>
          rw [hanswer]
          exact hbefore i (by omega)
    · intro k hk
      obtain ⟨k, rfl⟩ := Nat.exists_eq_add_of_lt (show 0 < k by omega)
      rw [Nat.zero_add, hanswer]
      exact hafter k (by omega)

/-- A loop that ends has not met a sink that stalls. The induction is on the offers left. -/
theorem not_stalls_of_drain {fuel : Nat} {buffer : List α} {s : S} {result : Bool × S}
    (h : drain sink fuel buffer s = some result) : ¬ Stalls sink buffer s := by
  induction fuel generalizing buffer s with
  | zero =>
      cases buffer with
      | nil => exact not_stalls_nil s
      | cons cell rest => cases h
  | succ fuel ih =>
      cases buffer with
      | nil => exact not_stalls_nil s
      | cons cell rest =>
          rw [drain] at h
          rcases hanswer : sink (cell :: rest) s with ⟨_ | count, next⟩
          · exact not_stalls_of_refused (by rw [hanswer])
          · rw [hanswer] at h
            rw [stalls_step (by simp) (by rw [hanswer])]
            rw [hanswer]
            exact ih h

/-- A refused offer ends the loop at once. -/
theorem drain_refused {fuel : Nat} {cell : α} {rest : List α} {s : S}
    (h : (sink (cell :: rest) s).1 = none) :
    drain sink (fuel + 1) (cell :: rest) s = some (false, (sink (cell :: rest) s).2) := by
  rw [drain]
  rcases hanswer : sink (cell :: rest) s with ⟨_ | taken, next⟩
  · rfl
  · rw [hanswer] at h
    cases h

/-- One more offer after an answer that leaves some of the work to do. -/
theorem drain_succ {fuel : Nat} {cell : α} {rest : List α} {s : S} {count : Nat}
    {result : Bool × S} (h : (sink (cell :: rest) s).1 = some count)
    (hrest : drain sink fuel ((cell :: rest).drop count) (sink (cell :: rest) s).2 =
      some result) : drain sink (fuel + 1) (cell :: rest) s = some result := by
  rw [drain]
  rcases hanswer : sink (cell :: rest) s with ⟨_ | taken, next⟩
  · rw [hanswer] at h
    cases h
  · rw [hanswer] at h hrest
    cases h
    exact hrest

/-- A loop whose sink does not stall ends. The outer induction is on what is left of the buffer,
the inner one on how long the sink keeps taking nothing. -/
theorem exists_drain_of_not_stalls (buffer : List α) (s : S) (h : ¬ Stalls sink buffer s) :
    ∃ fuel result, drain sink fuel buffer s = some result := by
  induction hlength : buffer.length using Nat.strongRecOn generalizing buffer s with
  | _ length ih =>
      subst hlength
      cases buffer with
      | nil => exact ⟨0, (true, s), rfl⟩
      | cons cell rest =>
          -- an offer of which something is taken leaves a shorter buffer
          have hshorter : ∀ s count, (sink (cell :: rest) s).1 = some count → count ≠ 0 →
              ¬ Stalls sink (cell :: rest) s →
              ∃ fuel result, drain sink fuel (cell :: rest) s = some result := by
            intro s count hanswer hpos h
            rw [stalls_step (by simp) hanswer] at h
            obtain ⟨fuel, result, hfuel⟩ := ih ((cell :: rest).drop count).length
              (by simp only [List.length_drop, List.length_cons]; omega) _ _ h rfl
            exact ⟨fuel + 1, result, drain_succ hanswer hfuel⟩
          -- some answer is not zero, since the sink would stall at once otherwise
          obtain ⟨k, hk⟩ : ∃ k, answer sink (cell :: rest) s k ≠ some 0 := by
            by_contra hall
            push Not at hall
            exact h ⟨0, by simp [offered], by simp, fun k _ => hall k⟩
          induction k generalizing s with
          | zero =>
              rcases hanswer : (sink (cell :: rest) s).1 with _ | count
              · exact ⟨1, _, drain_refused hanswer⟩
              · refine hshorter s count hanswer ?_ h
                intro hzero
                rw [hzero] at hanswer
                exact hk hanswer
          | succ k ihk =>
              rcases hanswer : (sink (cell :: rest) s).1 with _ | count
              · exact ⟨1, _, drain_refused hanswer⟩
              · by_cases hzero : count = 0
                · subst hzero
                  rw [stalls_step (by simp) hanswer] at h
                  have hk' : answer sink (cell :: rest) (sink (cell :: rest) s).2 k ≠ some 0 := by
                    intro heq
                    apply hk
                    rw [answer, offered, hanswer, Option.getD_some, List.drop_zero]
                    exact heq
                  obtain ⟨fuel, result, hfuel⟩ := ihk _ h hk'
                  exact ⟨fuel + 1, result, drain_succ hanswer hfuel⟩
                · exact hshorter s count hanswer hzero h

/-- The loop ends exactly if the sink does not stall. -/
theorem exists_drain_iff (buffer : List α) (s : S) :
    (∃ fuel result, drain sink fuel buffer s = some result) ↔ ¬ Stalls sink buffer s := by
  refine ⟨?_, exists_drain_of_not_stalls buffer s⟩
  intro h
  obtain ⟨fuel, result, hdrain⟩ := h
  exact not_stalls_of_drain hdrain

end VxSqlite.Drain
