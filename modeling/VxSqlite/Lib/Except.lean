import Mathlib.Init

/-!
# Computations that may fail

The law that takes a sequence of `Except` computations apart: a bind succeeds exactly when its
first part does and the rest succeeds on its value. `Ensures` says what holds of the value of a
computation that succeeds, with a rule for each way to put computations together.
-/

namespace VxSqlite

variable {ε α β : Type}

theorem bind_eq_ok_iff {first : Except ε α} {rest : α → Except ε β} {result : β} :
    first >>= rest = .ok result ↔ ∃ value, first = .ok value ∧ rest value = .ok result := by
  cases first with
  | error fault => simp [bind, Except.bind]
  | ok value => simp [bind, Except.bind]

/-- A computation whose last step cannot fail succeeds exactly if what comes before does. -/
theorem exists_bind_pure_iff {first : Except ε α} {f : α → β} :
    (∃ result, first >>= (fun value => pure (f value)) = .ok result) ↔
      ∃ value, first = .ok value := by
  constructor
  · intro h
    obtain ⟨result, hresult⟩ := h
    obtain ⟨value, hvalue, -⟩ := bind_eq_ok_iff.mp hresult
    exact ⟨value, hvalue⟩
  · intro h
    obtain ⟨value, hvalue⟩ := h
    exact ⟨f value, bind_eq_ok_iff.mpr ⟨value, hvalue, rfl⟩⟩

/-- A loop over a list succeeds if every turn does, on what the turns before have left. -/
theorem exists_foldlM {f : β → α → Except ε β} {l : List α} {b : β} (inv : List α → β → Prop)
    (hstart : inv [] b)
    (hstep : ∀ front a rest b, l = front ++ a :: rest → inv front b →
      ∃ next, f b a = .ok next ∧ inv (front ++ [a]) next) :
    ∃ result, l.foldlM f b = .ok result ∧ inv l result := by
  suffices h : ∀ rest front b, l = front ++ rest → inv front b →
      ∃ result, rest.foldlM f b = .ok result ∧ inv l result by
    exact h l [] b rfl hstart
  intro rest
  induction rest with
  | nil =>
      intro front b hl hinv
      rw [List.append_nil] at hl
      exact ⟨b, rfl, hl ▸ hinv⟩
  | cons a rest ih =>
      intro front b hl hinv
      obtain ⟨next, hnext, hinv⟩ := hstep front a rest b hl hinv
      obtain ⟨result, hresult, hinv⟩ := ih (front ++ [a]) next (by simp [hl]) hinv
      exact ⟨result, by rw [List.foldlM_cons, hnext]; exact hresult, hinv⟩

/-- What the computation succeeds with, if it does, has the property. -/
def Ensures (computed : Except ε α) (post : α → Prop) : Prop :=
  ∀ value, computed = .ok value → post value

namespace Ensures

variable {post : α → Prop}

theorem ok {value : α} (h : post value) : Ensures (.ok value : Except ε α) post := by
  intro value' hvalue
  cases hvalue
  exact h

theorem error (fault : ε) : Ensures (.error fault : Except ε α) post := by
  intro value hvalue
  cases hvalue

theorem mono {post' : α → Prop} {computed : Except ε α} (h : Ensures computed post)
    (himp : ∀ value, post value → post' value) : Ensures computed post' :=
  fun value hvalue => himp value (h value hvalue)

/-- The rule of sequencing: the rest starts from what the first part ensures. -/
theorem bind {first : Except ε β} {rest : β → Except ε α} (mid : β → Prop)
    (h : Ensures first mid) (hrest : ∀ value, mid value → Ensures (rest value) post) :
    Ensures (first >>= rest) post := by
  intro result hresult
  obtain ⟨value, hvalue, hrun⟩ := bind_eq_ok_iff.mp hresult
  exact hrest value (h value hvalue) result hrun

/-- The rule of the conditional. -/
theorem ite {cond : Prop} [Decidable cond] {first second : Except ε α}
    (hfirst : cond → Ensures first post) (hsecond : ¬ cond → Ensures second post) :
    Ensures (if cond then first else second) post := by
  split
  · exact hfirst ‹_›
  · exact hsecond ‹_›

end Ensures

@[simp] theorem ok_bind (value : α) (rest : α → Except ε β) :
    (Except.ok value : Except ε α) >>= rest = rest value := rfl

end VxSqlite
