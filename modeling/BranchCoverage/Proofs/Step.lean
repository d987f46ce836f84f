/-
Steps that may fail, and that keep their state when they do.
-/
namespace BranchCoverage

variable {ε σ τ α β γ δ : Type}

/-- A step that succeeds hands over to the next one. -/
theorem bind_of_ok {x : EStateM ε σ α} {f : α → EStateM ε σ β} {s s' : σ} {a : α}
    (h : x s = .ok a s') : (x >>= f) s = f a s' := by
  show EStateM.bind x f s = f a s'
  rw [EStateM.bind, h]

/-- A step that fails is the last one. -/
theorem bind_of_error {x : EStateM ε σ α} {f : α → EStateM ε σ β} {s s' : σ} {e : ε}
    (h : x s = .error e s') : (x >>= f) s = .error e s' := by
  show EStateM.bind x f s = .error e s'
  rw [EStateM.bind, h]

/-- A change of the state always succeeds. -/
theorem bind_modify (change : σ → σ) (f : Unit → EStateM ε σ β) (s : σ) :
    (modify change >>= f) s = f () (change s) :=
  rfl

/-- What succeeds for each of several elements succeeds for all of them. -/
theorem mapM_eq_some_map {g : α → Option β} {f : α → β} {xs : List α}
    (h : ∀ x ∈ xs, g x = some (f x)) : xs.mapM g = some (xs.map f) := by
  induction xs with
  | nil => rfl
  | cons x rest ih =>
    rw [List.mapM_cons, h x List.mem_cons_self,
      ih fun y hy => h y (List.mem_cons_of_mem x hy)]
    rfl

/-! ### One run -/

/-- A step ends with a value and a state that are in order, or for a reason and
in a state that are in order otherwise. -/
def Ends (Q : α → σ → Prop) (E : ε → σ → Prop) : EStateM.Result ε σ α → Prop
  | .ok a s => Q a s
  | .error e s => E e s

/-- A step that ends well may be followed by one that does. -/
theorem Ends.bind {R : α → σ → Prop} {Q : β → σ → Prop} {E : ε → σ → Prop}
    {x : EStateM ε σ α} {f : α → EStateM ε σ β} {s : σ} (h : Ends R E (x s))
    (hrest : ∀ a s, R a s → Ends Q E (f a s)) : Ends Q E ((x >>= f) s) := by
  rcases hx : x s with ⟨a, s'⟩ | ⟨e, s'⟩ <;> rw [hx] at h
  · rw [bind_of_ok hx]
    exact hrest a s' h
  · rw [bind_of_error hx]
    exact h

theorem Ends.imp {Q R : α → σ → Prop} {E F : ε → σ → Prop} {result : EStateM.Result ε σ α}
    (h : Ends Q E result) (hvalue : ∀ a s, Q a s → R a s) (herror : ∀ e s, E e s → F e s) :
    Ends R F result := by
  rcases result with ⟨a, s⟩ | ⟨e, s⟩
  · exact hvalue a s h
  · exact herror e s h

/-- What is known about the end of a step from two sides. -/
theorem Ends.and {Q R : α → σ → Prop} {E F : ε → σ → Prop} {result : EStateM.Result ε σ α}
    (h : Ends Q E result) (h' : Ends R F result) :
    Ends (fun a s => Q a s ∧ R a s) (fun e s => E e s ∧ F e s) result := by
  rcases result with ⟨a, s⟩ | ⟨e, s⟩ <;> exact ⟨h, h'⟩

/-! ### Two runs -/

/-- Two steps end alike: with values and states that are related, or for the
same reason and with states that are related otherwise. -/
def EndAlike (R : α → β → σ → τ → Prop) (E : σ → τ → Prop) :
    EStateM.Result ε σ α → EStateM.Result ε τ β → Prop
  | .ok a s, .ok b t => R a b s t
  | .error e s, .error e' t => e = e' ∧ E s t
  | _, _ => False

/-- Steps that end alike may be followed by steps that do. -/
theorem EndAlike.bind {R : α → β → σ → τ → Prop} {S : γ → δ → σ → τ → Prop} {E : σ → τ → Prop}
    {x : EStateM ε σ α} {y : EStateM ε τ β} {f : α → EStateM ε σ γ} {g : β → EStateM ε τ δ}
    {s : σ} {t : τ} (h : EndAlike R E (x s) (y t))
    (hrest : ∀ a b s t, R a b s t → EndAlike S E (f a s) (g b t)) :
    EndAlike S E ((x >>= f) s) ((y >>= g) t) := by
  rcases hx : x s with ⟨a, s'⟩ | ⟨e, s'⟩ <;> rcases hy : y t with ⟨b, t'⟩ | ⟨e', t'⟩ <;>
    rw [hx, hy] at h
  · rw [bind_of_ok hx, bind_of_ok hy]
    exact hrest a b s' t' h
  · exact h.elim
  · exact h.elim
  · rw [bind_of_error hx, bind_of_error hy]
    exact h

end BranchCoverage
