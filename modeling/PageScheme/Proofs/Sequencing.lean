import Mathlib.Data.List.Forall2

/-!
# Steps that may fail

A sequence of steps succeeds exactly if each of them does; the first lemmas take it apart into its
steps. It fails with nothing but what its steps fail with (`FailsOnly`), and where each step
succeeds under a condition alone, it succeeds if all of them hold (`Decides`).
-/
namespace PageScheme

variable {ε α β : Type}

theorem bind_eq_ok {x : Except ε α} {f : α → Except ε β} {b : β} :
    x >>= f = .ok b ↔ ∃ a, x = .ok a ∧ f a = .ok b := by
  cases x <;> simp [bind, Except.bind]

theorem map_eq_ok {x : Except ε α} {f : α → β} {b : β} :
    f <$> x = .ok b ↔ ∃ a, x = .ok a ∧ f a = b := by
  cases x <;> simp [Functor.map, Except.map]

theorem mapM_cons_eq_ok {f : α → Except ε β} {a : α} {as : List α} {results : List β} :
    (a :: as).mapM f = .ok results ↔
      ∃ b bs, f a = .ok b ∧ as.mapM f = .ok bs ∧ results = b :: bs := by
  simp only [List.mapM_cons, bind_eq_ok, pure, Except.pure, Except.ok.injEq]
  constructor
  · rintro ⟨b, head, bs, tail, rfl⟩
    exact ⟨b, bs, head, tail, rfl⟩
  · rintro ⟨b, bs, head, tail, rfl⟩
    exact ⟨b, head, bs, tail, rfl⟩

/-- Each result of a traversal is the result of one of its steps. -/
theorem exists_of_mapM_eq_ok {f : α → Except ε β} {as : List α} {results : List β}
    (ran : as.mapM f = .ok results) : ∀ b ∈ results, ∃ a ∈ as, f a = .ok b := by
  induction as generalizing results with
  | nil => cases ran; nofun
  | cons a as ih =>
    obtain ⟨b, bs, head, tail, rfl⟩ := mapM_cons_eq_ok.mp ran
    rw [List.forall_mem_cons]
    refine ⟨⟨a, List.mem_cons_self, head⟩, ?_⟩
    intro other member
    obtain ⟨step, listed, done⟩ := ih tail other member
    exact ⟨step, List.mem_cons_of_mem _ listed, done⟩

/-! ### Two runs -/

/-- Two steps agree if they fail alike or give related results. -/
inductive Agree (related : α → β → Prop) : Except ε α → Except ε β → Prop
  | error (fault : ε) : Agree related (.error fault) (.error fault)
  | ok {a : α} {b : β} : related a b → Agree related (.ok a) (.ok b)

namespace Agree
variable {γ δ : Type} {related : α → β → Prop} {step : Except ε α} {other : Except ε β}

theorem bind {results : γ → δ → Prop} {f : α → Except ε γ} {g : β → Except ε δ}
    (agree : Agree related step other) (next : ∀ a b, related a b → Agree results (f a) (g b)) :
    Agree results (step >>= f) (other >>= g) := by
  cases agree with
  | error fault => exact .error fault
  | ok holds => exact next _ _ holds

theorem bind_eq {f : α → Except ε γ} {g : β → Except ε γ} (agree : Agree related step other)
    (next : ∀ a b, related a b → f a = g b) : step >>= f = other >>= g := by
  cases agree with
  | error fault => rfl
  | ok holds => exact next _ _ holds

end Agree

theorem map_eq_of_forall₂ {γ : Type} {f : α → γ} {g : β → γ} {as : List α} {bs : List β}
    (each : List.Forall₂ (fun a b => f a = g b) as bs) : as.map f = bs.map g := by
  rw [← List.forall₂_eq_eq_eq, List.forall₂_map_left_iff, List.forall₂_map_right_iff]
  exact each

/-- Two traversals are equal if their steps are, one by one. -/
theorem mapM_eq_of_forall₂ {γ : Type} {f : α → Except ε γ} {g : β → Except ε γ} {as : List α}
    {bs : List β} (each : List.Forall₂ (fun a b => f a = g b) as bs) : as.mapM f = bs.mapM g := by
  have first : as.mapM f = (as.map f).mapM id := by rw [List.mapM_map]; rfl
  have second : bs.mapM g = (bs.map g).mapM id := by rw [List.mapM_map]; rfl
  rw [first, second, map_eq_of_forall₂ each]

/-! ### Failures -/

def FailsOnly (allowed : ε → Prop) (step : Except ε α) : Prop :=
  ∀ fault, step = .error fault → allowed fault

namespace FailsOnly
variable {allowed : ε → Prop} {step : Except ε α}

theorem ok (a : α) : FailsOnly allowed (.ok a : Except ε α) := nofun

theorem error {fault : ε} (is_allowed : allowed fault) :
    FailsOnly allowed (.error fault : Except ε α) := by
  rintro _ ⟨⟩
  exact is_allowed

theorem imp {other : ε → Prop} (fails : FailsOnly allowed step)
    (implies : ∀ fault, allowed fault → other fault) : FailsOnly other step :=
  fun fault failed => implies fault (fails fault failed)

theorem bind {next : α → Except ε β} (first : FailsOnly allowed step)
    (then_next : ∀ a, FailsOnly allowed (next a)) : FailsOnly allowed (step >>= next) := by
  cases step with
  | error fault => exact error (first fault rfl)
  | ok a => exact then_next a

theorem map (f : α → β) (first : FailsOnly allowed step) : FailsOnly allowed (f <$> step) := by
  cases step with
  | error fault => exact error (first fault rfl)
  | ok a => exact ok (f a)

theorem mapM {f : α → Except ε β} (each : ∀ a, FailsOnly allowed (f a)) (as : List α) :
    FailsOnly allowed (as.mapM f) := by
  induction as with
  | nil => exact ok []
  | cons a as ih =>
    rw [List.mapM_cons]
    exact (each a).bind fun b => ih.bind fun bs => ok (b :: bs)

end FailsOnly

/-! ### Conditions -/

/-- A step decides a condition: it gives a certain value if the condition holds, and fails if
not. -/
def Decides (condition : Prop) (value : α) : Except ε α → Prop
  | .ok a => condition ∧ a = value
  | .error _ => ¬ condition

namespace Decides
variable {condition other : Prop} {value : α} {step : Except ε α}

theorem ok (holds : condition) : Decides condition value (.ok value : Except ε α) := ⟨holds, rfl⟩

theorem eq_ok (decides : Decides condition value step) (holds : condition) : step = .ok value := by
  cases step with
  | ok a => rw [decides.2]
  | error fault => exact absurd holds decides

theorem exists_error (decides : Decides condition value step) (fails : ¬ condition) :
    ∃ fault, step = .error fault := by
  cases step with
  | ok a => exact absurd decides.1 fails
  | error fault => exact ⟨fault, rfl⟩

theorem congr (decides : Decides condition value step) (same : condition ↔ other) :
    Decides other value step := by
  rwa [← propext same]

theorem bind {results : Prop} {result : β} {next : α → Except ε β}
    (first : Decides condition value step)
    (then_next : condition → Decides results result (next value)) :
    Decides (condition ∧ results) result (step >>= next) := by
  cases step with
  | error fault => exact fun both => first both.1
  | ok a =>
    obtain ⟨holds, rfl⟩ := first
    have decides := then_next holds
    exact decides.congr (by simp [holds])

theorem bind_ok {result : β} {next : α → Except ε β} (first : Decides condition value step)
    (then_next : condition → next value = .ok result) :
    Decides condition result (step >>= next) := by
  cases step with
  | error fault => exact first
  | ok a =>
    obtain ⟨holds, rfl⟩ := first
    have done : Except.ok a >>= next = .ok result := then_next holds
    rw [done]
    exact .ok holds

theorem map (f : α → β) (first : Decides condition value step) :
    Decides condition (f value) (step.map f) := by
  cases step with
  | error fault => exact first
  | ok a => exact ⟨first.1, congrArg f first.2⟩

end Decides

end PageScheme
