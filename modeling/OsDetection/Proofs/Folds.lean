import Mathlib.Data.List.Forall2
import Mathlib.Data.List.Induction
import OsDetection.Logged

/-!
# Runs of a step over a list

A database is read line by line, a query character by character, and a run is scored observation by
observation: each is a step taken over a list up to the first fault. This module has what is said
of all of them. `Logged.outcome_bind_eq_ok_iff` takes a successful computation apart,
`Logged.outcome_foldl_append` cuts a run in two, and `Logged.foldl_induct` is the induction along a
successful run: what holds before the first element, and is kept by every step, holds at the end of
everything that was read.
-/

namespace OsDetection

@[simp] theorem ok_bind {ε α β : Type} (a : α) (f : α → Except ε β) :
    ((Except.ok a : Except ε α) >>= f) = f a := rfl

@[simp] theorem error_bind {ε α β : Type} (fault : ε) (f : α → Except ε β) :
    ((Except.error fault : Except ε α) >>= f) = .error fault := rfl

/-- A computation succeeds exactly if its first part does, and the rest from there. -/
theorem bind_eq_ok_iff {ε α β : Type} {x : Except ε α} {f : α → Except ε β} {b : β} :
    (x >>= f) = .ok b ↔ ∃ a, x = .ok a ∧ f a = .ok b := by
  cases x with
  | error fault =>
    refine ⟨?_, fun h => ?_⟩
    · exact nofun
    · obtain ⟨a, ha, -⟩ := h
      exact nomatch ha
  | ok a =>
    refine ⟨?_, fun h => ?_⟩
    · exact fun h => ⟨a, rfl, h⟩
    · obtain ⟨a', ha, h⟩ := h
      cases ha
      exact h

/-- A computation fails exactly if its first part does, or the rest from where that led. -/
theorem bind_eq_error_iff {ε α β : Type} {x : Except ε α} {f : α → Except ε β} {fault : ε} :
    (x >>= f) = .error fault ↔ x = .error fault ∨ ∃ a, x = .ok a ∧ f a = .error fault := by
  cases x with
  | error fault' =>
    refine ⟨fun h => .inl (congrArg _ (Except.error.inj h)), fun h => ?_⟩
    rcases h with h | ⟨a, ha, -⟩
    · exact congrArg _ (Except.error.inj h)
    · exact nomatch ha
  | ok a =>
    refine ⟨fun h => .inr ⟨a, rfl, h⟩, fun h => ?_⟩
    rcases h with h | ⟨a', ha, h⟩
    · exact nomatch h
    · cases ha
      exact h

/-- A computation whose result is put differently succeeds exactly if it does itself. -/
theorem map_eq_ok_iff {ε α β : Type} {x : Except ε α} {f : α → β} {b : β} :
    x.map f = .ok b ↔ ∃ a, x = .ok a ∧ f a = b := by
  cases x with
  | error fault =>
    refine ⟨?_, fun h => ?_⟩
    · exact nofun
    · obtain ⟨a, ha, -⟩ := h
      exact nomatch ha
  | ok a =>
    refine ⟨fun h => ⟨a, rfl, Except.ok.inj h⟩, fun h => ?_⟩
    obtain ⟨a', ha, rfl⟩ := h
    cases ha
    rfl

theorem mapError_eq_error_iff {ε ε' α : Type} {f : ε → ε'} {x : Except ε α} {fault : ε'} :
    x.mapError f = .error fault ↔ ∃ cause, x = .error cause ∧ f cause = fault := by
  cases x <;> simp [Except.mapError]

/-- A computation that does not fail has a result. -/
theorem exists_eq_ok_of_isOk {ε α : Type} {x : Except ε α} (h : x.isOk) : ∃ a, x = .ok a := by
  cases x with
  | error fault => exact nomatch h
  | ok a => exact ⟨a, rfl⟩

/-- Taking every element of a list through a computation succeeds exactly if it does for each. -/
theorem mapM_eq_ok_iff {ε α β : Type} {f : α → Except ε β} {as : List α} {bs : List β} :
    as.mapM f = .ok bs ↔ List.Forall₂ (fun a b => f a = .ok b) as bs := by
  induction as generalizing bs with
  | nil =>
    rw [List.mapM_nil, List.forall₂_nil_left_iff]
    exact ⟨fun h => (Except.ok.inj h).symm, fun h => h ▸ rfl⟩
  | cons a as ih =>
    rw [List.mapM_cons, List.forall₂_cons_left_iff, bind_eq_ok_iff]
    refine exists_congr fun b => ?_
    rw [bind_eq_ok_iff]
    refine ⟨fun h => ?_, fun h => ?_⟩
    · obtain ⟨hb, bs', hbs, h⟩ := h
      cases h
      exact ⟨bs', hb, ih.1 hbs, rfl⟩
    · obtain ⟨bs', hb, hbs, rfl⟩ := h
      exact ⟨hb, bs', ih.2 hbs, rfl⟩

/-- Where that fails, it fails for the first of the elements that it does not succeed for. -/
theorem mapM_eq_error_iff {ε α β : Type} {f : α → Except ε β} {as : List α} {fault : ε} :
    as.mapM f = .error fault ↔ ∃ before a after, as = before ++ a :: after ∧
      (∀ b ∈ before, ∃ c, f b = .ok c) ∧ f a = .error fault := by
  constructor
  · intro h
    induction as with
    | nil => cases h
    | cons a as ih =>
      rw [List.mapM_cons] at h
      rcases bind_eq_error_iff.1 h with ha | ⟨b, hb, h⟩
      · exact ⟨[], a, as, rfl, by simp, ha⟩
      · rcases bind_eq_error_iff.1 h with has | ⟨bs, -, h⟩
        · obtain ⟨before, a', after, rfl, hbefore, ha'⟩ := ih has
          exact ⟨a :: before, a', after, rfl, List.forall_mem_cons.2 ⟨⟨b, hb⟩, hbefore⟩, ha'⟩
        · cases h
  · rintro ⟨before, a, after, rfl, hbefore, ha⟩
    induction before with
    | nil =>
      rw [List.nil_append, List.mapM_cons]
      exact bind_eq_error_iff.2 (.inl ha)
    | cons b before ih =>
      obtain ⟨⟨c, hc⟩, hbefore⟩ := List.forall_mem_cons.1 hbefore
      rw [List.cons_append, List.mapM_cons, hc, ok_bind, ih hbefore]
      rfl

/-- Where that fails, it fails for one of the elements. -/
theorem exists_mem_of_mapM_eq_error {ε α β : Type} {f : α → Except ε β} {as : List α} {fault : ε}
    (h : as.mapM f = .error fault) : ∃ a ∈ as, f a = .error fault := by
  obtain ⟨before, a, after, rfl, -, ha⟩ := mapM_eq_error_iff.1 h
  exact ⟨a, by simp, ha⟩

/-- Steps over a list fail exactly if, after some successful ones, the next one does. -/
theorem foldlM_eq_error_iff {ε α σ : Type} {step : σ → α → Except ε σ} {s : σ} {as : List α}
    {fault : ε} :
    as.foldlM step s = .error fault ↔ ∃ before a after m, as = before ++ a :: after ∧
      before.foldlM step s = .ok m ∧ step m a = .error fault := by
  constructor
  · intro h
    induction as generalizing s with
    | nil => cases h
    | cons a as ih =>
      rw [List.foldlM_cons] at h
      rcases bind_eq_error_iff.1 h with h | ⟨m, hm, h⟩
      · exact ⟨[], a, as, s, rfl, rfl, h⟩
      · obtain ⟨before, b, after, m', rfl, hbefore, hb⟩ := ih h
        refine ⟨a :: before, b, after, m', rfl, ?_, hb⟩
        rw [List.foldlM_cons]
        exact bind_eq_ok_iff.2 ⟨m, hm, hbefore⟩
  · rintro ⟨before, a, after, m, rfl, hbefore, ha⟩
    rw [List.foldlM_append, hbefore, ok_bind, List.foldlM_cons]
    exact bind_eq_error_iff.2 (.inl ha)

/-- In lists that are related element by element, everything on the right has its counterpart. -/
theorem exists_mem_of_forall₂ {α β : Type} {R : α → β → Prop} {as : List α} {bs : List β}
    (h : List.Forall₂ R as bs) {b : β} (hb : b ∈ bs) : ∃ a ∈ as, R a b := by
  induction h with
  | nil => exact nomatch hb
  | @cons a _ _ _ hab _ ih =>
    rcases List.mem_cons.1 hb with rfl | hb
    · exact ⟨a, List.mem_cons_self, hab⟩
    · obtain ⟨a', ha', hr⟩ := ih hb
      exact ⟨a', List.mem_cons_of_mem _ ha', hr⟩

/-- A list has a related list exactly if each of its elements has a related element. -/
theorem exists_forall₂_iff {α β : Type} {R : α → β → Prop} {as : List α} :
    (∃ bs, List.Forall₂ R as bs) ↔ ∀ a ∈ as, ∃ b, R a b := by
  induction as with
  | nil => simp
  | cons a as ih =>
    rw [List.forall_mem_cons, ← ih]
    refine ⟨fun h => ?_, fun h => ?_⟩
    · obtain ⟨_, h⟩ := h
      cases h with
      | cons hab h => exact ⟨⟨_, hab⟩, ⟨_, h⟩⟩
    · obtain ⟨⟨b, hab⟩, ⟨bs, h⟩⟩ := h
      exact ⟨b :: bs, .cons hab h⟩

/-- A list related to two lists in a row comes in two parts. -/
theorem forall₂_append_left_iff {α β : Type} {R : α → β → Prop} {as as' : List α} {bs : List β} :
    List.Forall₂ R (as ++ as') bs ↔
      ∃ cs cs', bs = cs ++ cs' ∧ List.Forall₂ R as cs ∧ List.Forall₂ R as' cs' := by
  induction as generalizing bs with
  | nil => simp
  | cons a as ih =>
    refine ⟨fun h => ?_, fun h => ?_⟩
    · cases h with
      | @cons _ b _ _ hab h =>
        obtain ⟨cs, cs', rfl, hcs, hcs'⟩ := ih.1 h
        exact ⟨b :: cs, cs', rfl, .cons hab hcs, hcs'⟩
    · obtain ⟨_, cs', rfl, hcs, hcs'⟩ := h
      cases hcs with
      | cons hab hcs => exact .cons hab (ih.2 ⟨_, cs', rfl, hcs, hcs'⟩)

namespace Logged

variable {ε α β σ : Type} {step : σ → α → Logged ε σ} {s t : σ}

/-- A computation with notices succeeds exactly if its first part does, and the rest from there. -/
theorem outcome_bind_eq_ok_iff {x : Logged ε α} {f : α → Logged ε β} {b : β} :
    (x >>= f).outcome = .ok b ↔ ∃ a, x.outcome = .ok a ∧ (f a).outcome = .ok b := by
  rw [outcome_bind, bind_eq_ok_iff]

/-- It fails exactly if its first part does, or the rest from where that led. -/
theorem outcome_bind_eq_error_iff {x : Logged ε α} {f : α → Logged ε β} {fault : ε} :
    (x >>= f).outcome = .error fault ↔
      x.outcome = .error fault ∨ ∃ a, x.outcome = .ok a ∧ (f a).outcome = .error fault := by
  rw [outcome_bind, bind_eq_error_iff]

/-- What follows a computation without notices can be put into it, if it gives no notices either. -/
theorem ofExcept_bind (x : Except ε α) (f : α → Except ε β) :
    ofExcept (x >>= f) = ofExcept x >>= fun a => ofExcept (f a) := by
  cases x <;> rfl

/-- Only what follows a result matters. -/
theorem bind_congr_of_ok {x : Logged ε α} {f g : α → Logged ε β}
    (h : ∀ a, x.outcome = .ok a → f a = g a) : x >>= f = x >>= g := by
  cases hx : x.outcome with
  | error fault => ext1 <;> simp [hx, notices_bind_of_error]
  | ok a => ext1 <;> simp [hx, notices_bind_of_ok, h a hx]

/-- What holds of the notices of each part holds of all. -/
theorem forall_notices_bind {P : Notice → Prop} {x : Logged ε α} {f : α → Logged ε β}
    (hx : ∀ notice ∈ x.notices, P notice) (hf : ∀ a, ∀ notice ∈ (f a).notices, P notice) :
    ∀ notice ∈ (x >>= f).notices, P notice := by
  cases h : x.outcome with
  | error fault => rwa [notices_bind_of_error h]
  | ok a =>
    rw [notices_bind_of_ok h]
    exact List.forall_mem_append.2 ⟨hx, hf a⟩

/-- What holds of the notices of each step, wherever it begins, holds of those of all steps. -/
theorem forall_notices_foldl {P : Notice → Prop} {as : List α}
    (h : ∀ a ∈ as, ∀ s, ∀ notice ∈ (step s a).notices, P notice) :
    ∀ notice ∈ (foldl step s as).notices, P notice := by
  induction as generalizing s with
  | nil => simp
  | cons a as ih =>
    obtain ⟨ha, has⟩ := List.forall_mem_cons.1 h
    rw [foldl_cons]
    exact forall_notices_bind (ha s) fun _ => ih has

@[simp] theorem outcome_map (f : α → β) (x : Logged ε α) :
    (f <$> x).outcome = x.outcome.map f := by
  rw [← bind_pure_comp, outcome_bind]
  cases x.outcome <;> rfl

/-- Steps over what the elements of a list are turned into. -/
theorem foldl_map (f : β → α) (as : List β) :
    foldl step s (as.map f) = foldl (fun s a => step s (f a)) s as := by
  induction as generalizing s with
  | nil => rfl
  | cons a as ih => simp only [List.map_cons, foldl_cons, ih]

/-- Steps over one list and then another are steps over both. -/
theorem outcome_foldl_append (as bs : List α) :
    (foldl step s (as ++ bs)).outcome =
      (foldl step s as).outcome >>= fun s => (foldl step s bs).outcome := by
  simp only [outcome_foldl, List.foldlM_append]

/-- A successful run over a list and one more element takes one more step. -/
theorem outcome_foldl_concat_eq_ok_iff {as : List α} {a : α} :
    (foldl step s (as ++ [a])).outcome = .ok t ↔
      ∃ m, (foldl step s as).outcome = .ok m ∧ (step m a).outcome = .ok t := by
  rw [outcome_foldl_append, bind_eq_ok_iff]
  simp only [foldl_cons, foldl_nil, bind_pure]

/-- A run fails exactly if, after some successful steps, the next one does, whatever comes later. -/
theorem outcome_foldl_eq_error_iff {as : List α} {fault : ε} :
    (foldl step s as).outcome = .error fault ↔ ∃ before a after m, as = before ++ a :: after ∧
      (foldl step s before).outcome = .ok m ∧ (step m a).outcome = .error fault := by
  simp only [outcome_foldl]
  exact foldlM_eq_error_iff

/-- Induction along a successful run. The relation ties a state to the elements read so far. -/
theorem foldl_induct {I : List α → σ → Prop} (start : I [] s)
    (kept : ∀ before a m m', I before m → (step m a).outcome = .ok m' → I (before ++ [a]) m')
    {as : List α} (h : (foldl step s as).outcome = .ok t) : I as t := by
  induction as using List.reverseRecOn generalizing t with
  | nil =>
    cases h
    exact start
  | append_singleton as a ih =>
    obtain ⟨m, hm, hstep⟩ := outcome_foldl_concat_eq_ok_iff.1 h
    exact kept as a m t (ih hm) hstep

end Logged

end OsDetection
