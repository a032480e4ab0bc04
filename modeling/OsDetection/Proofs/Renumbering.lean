import OsDetection.Fault
import OsDetection.Proofs.Folds

/-!
# What does not depend on line numbers

Faults and notices say on which line something was found. `unnumbered` forgets the lines, so that
computations can be compared in everything else: `Logged.unnumbered` keeps the notices and the fault
or the result. Computations that agree so go on agreeing when they are continued alike
(`Logged.unnumbered_bind`), and steps over lists agree when each step does, and the elements that
are left out on one side do nothing (`Logged.unnumbered_foldl`).
-/

namespace OsDetection

/-- A fault without the line that it was found on. -/
def Fault.unnumbered : Fault → Fault
  | malformedLine _ content => malformedLine 0 content
  | unknownProbe _ name => unknownProbe 0 name
  | unknownTest _ probe test => unknownTest 0 probe test
  | repeatedGroup _ probe fingerprint => repeatedGroup 0 probe fingerprint
  | badEntry _ entry reason => badEntry 0 entry reason
  | incomplete _ name missing => incomplete 0 name missing
  | unnamed _ => unnamed 0
  | unterminated _ name => unterminated 0 name
  | repeatedRow _ probe => repeatedRow 0 probe
  | repeatedPoints _ probe test => repeatedPoints 0 probe test
  | informationalPoints _ probe => informationalPoints 0 probe
  | badPoints _ probe test value => badPoints 0 probe test value
  | repeatedTable _ => repeatedTable 0
  | noTable => noTable
  | unexpectedEnd _ reading => unexpectedEnd 0 reading
  | misspelled _ how => misspelled 0 how
  | noPoints probe test => noPoints probe test

/-- A notice without the line that it is about. -/
def Notice.unnumbered : Notice → Notice
  | repeatedTest source _ test probe => repeatedTest source 0 test probe
  | fingerprintRead name _ => fingerprintRead name 0
  | repeatedObservation _ test probe => repeatedObservation 0 test probe
  | notice => notice

/-- Computations that fail alike, but for the line, fail alike when they are continued alike. -/
theorem mapError_unnumbered_bind {α β : Type} {x y : Except Fault α} {f g : α → Except Fault β}
    (hxy : x.mapError Fault.unnumbered = y.mapError Fault.unnumbered)
    (hfg : ∀ a, (f a).mapError Fault.unnumbered = (g a).mapError Fault.unnumbered) :
    (x >>= f).mapError Fault.unnumbered = (y >>= g).mapError Fault.unnumbered := by
  cases x with
  | error fault =>
    cases y with
    | error fault' => exact congrArg Except.error (Except.error.inj hxy)
    | ok b => cases hxy
  | ok a =>
    cases y with
    | error fault' => cases hxy
    | ok b =>
      cases hxy
      exact hfg a

namespace Logged

variable {α β γ δ σ τ : Type}

/-- What a computation tells and leads to, without lines; `f` forgets those in a result. -/
def unnumbered (f : α → β) (x : Logged Fault α) : Logged Fault β :=
  ⟨x.notices.map Notice.unnumbered, (x.outcome.mapError Fault.unnumbered).map f⟩

@[simp] theorem unnumbered_pure (f : α → β) (a : α) :
    (pure a : Logged Fault α).unnumbered f = pure (f a) := rfl

/-- The results of computations that agree but for lines do so, too. -/
theorem eq_of_unnumbered_eq {f : α → β} {x y : Logged Fault α} {a b : α}
    (h : x.unnumbered f = y.unnumbered f) (hx : x.outcome = .ok a) (hy : y.outcome = .ok b) :
    f a = f b := by
  have houtcome := congrArg outcome h
  unfold unnumbered at houtcome
  rw [hx, hy] at houtcome
  exact Except.ok.inj houtcome

/-- Computations that agree but for lines both fail or both succeed. -/
theorem cases_of_unnumbered_eq {f : α → β} {x y : Logged Fault α}
    (h : x.unnumbered f = y.unnumbered f) :
    (∃ fault fault', x.outcome = .error fault ∧ y.outcome = .error fault' ∧
      fault.unnumbered = fault'.unnumbered) ∨
    ∃ a b, x.outcome = .ok a ∧ y.outcome = .ok b ∧ f a = f b := by
  have houtcome := congrArg outcome h
  unfold unnumbered at houtcome
  cases hx : x.outcome with
  | error fault =>
    cases hy : y.outcome with
    | error fault' =>
      rw [hx, hy] at houtcome
      exact .inl ⟨fault, fault', rfl, rfl, Except.error.inj houtcome⟩
    | ok b => rw [hx, hy] at houtcome; cases houtcome
  | ok a =>
    cases hy : y.outcome with
    | error fault' => rw [hx, hy] at houtcome; cases houtcome
    | ok b => exact .inr ⟨a, b, rfl, rfl, eq_of_unnumbered_eq h hx hy⟩

/-- A computation that agrees but for lines with one that succeeds has a result that does so,
too. -/
theorem exists_ok_of_unnumbered_eq {f : α → β} {x y : Logged Fault α} {a : α}
    (h : x.unnumbered f = y.unnumbered f) (hx : x.outcome = .ok a) :
    ∃ b, y.outcome = .ok b ∧ f a = f b := by
  rcases cases_of_unnumbered_eq h with ⟨fault, fault', hfault, -, -⟩ | ⟨a', b, ha, hb, hab⟩
  · cases hfault.symm.trans hx
  · cases ha.symm.trans hx
    exact ⟨b, hb, hab⟩

/-- Computations that agree but for lines agree so when they are continued alike. -/
theorem unnumbered_bind {f : α → β} {g : γ → δ} {x y : Logged Fault α} {k l : α → Logged Fault γ}
    (hxy : x.unnumbered f = y.unnumbered f)
    (hkl : ∀ a b, f a = f b → (k a).unnumbered g = (l b).unnumbered g) :
    (x >>= k).unnumbered g = (y >>= l).unnumbered g := by
  have hnotices : x.notices.map Notice.unnumbered = y.notices.map Notice.unnumbered :=
    congrArg notices hxy
  unfold unnumbered at hkl ⊢
  rcases cases_of_unnumbered_eq hxy with ⟨fault, fault', hx, hy, h⟩ | ⟨a, b, hx, hy, h⟩
  · rw [notices_bind_of_error hx, notices_bind_of_error hy, outcome_bind, outcome_bind, hx, hy,
      hnotices]
    exact congrArg (Logged.mk _) (congrArg Except.error h)
  · have hrest := hkl a b h
    rw [Logged.mk.injEq] at hrest
    rw [notices_bind_of_ok hx, notices_bind_of_ok hy, outcome_bind, outcome_bind, hx, hy,
      List.map_append, List.map_append, hnotices, hrest.1, ok_bind, ok_bind, hrest.2]

/-- Steps over a list agree but for lines with steps over the elements of it that do something, if
each of these does the same on either side. -/
theorem unnumbered_foldl {f : σ → τ}
    {step : σ → α → Logged Fault σ} {step' : σ → β → Logged Fault σ}
    {visible : α → Bool} {key : α → β}
    (idle : ∀ s a, visible a = false → (step s a).unnumbered f = pure (f s))
    (moves : ∀ s t a, f s = f t → (step s a).unnumbered f = (step' t (key a)).unnumbered f)
    {s t : σ} (h : f s = f t) (as : List α) :
    (foldl step s as).unnumbered f =
      (foldl step' t ((as.filter visible).map key)).unnumbered f := by
  induction as generalizing s t with
  | nil => simp [h]
  | cons a as ih =>
    rw [foldl_cons]
    by_cases ha : visible a
    · rw [List.filter_cons_of_pos ha, List.map_cons, foldl_cons]
      exact unnumbered_bind (moves s t a h) fun m n hmn => ih hmn
    · -- Nothing happens on the left, and the element is left out on the right.
      have hidle : (step s a).unnumbered f = (pure t : Logged Fault σ).unnumbered f := by
        rw [idle s a (Bool.eq_false_iff.2 ha), unnumbered_pure, h]
      rw [List.filter_cons_of_neg ha, ← pure_bind t fun m => foldl step' m _]
      exact unnumbered_bind hidle fun m n hmn => ih hmn

end Logged

end OsDetection
