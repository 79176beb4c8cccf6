import Mathlib.Data.List.Forall2

/-!
# Results of computations that may fail

A sequence of steps gives a result exactly when each step does.

Steps that may fail are taken in turn, and the first fault ends them. Whether all succeed does not
depend on their order; which fault comes first does.
-/
namespace ScriptProfiling

variable {ε α β γ : Type}

theorem ok_bind (a : α) (f : α → Except ε β) : .ok a >>= f = f a := rfl

theorem bind_eq_ok {x : Except ε α} {f : α → Except ε β} {b : β} :
    x >>= f = .ok b ↔ ∃ a, x = .ok a ∧ f a = .ok b := by
  cases x with
  | error e => simp [bind, Except.bind]
  | ok a => simp [bind, Except.bind]

theorem bind_eq_error {x : Except ε α} {f : α → Except ε β} {e : ε} :
    x >>= f = .error e ↔ x = .error e ∨ ∃ a, x = .ok a ∧ f a = .error e := by
  cases x with
  | error e => simp [bind, Except.bind]
  | ok a => simp [bind, Except.bind]

theorem map_eq_ok {x : Except ε α} {f : α → β} {b : β} :
    x.map f = .ok b ↔ ∃ a, x = .ok a ∧ f a = b := by
  cases x <;> simp [Except.map]

theorem mapError_eq_ok {δ : Type} {x : Except ε α} {f : ε → δ} {a : α} :
    x.mapError f = .ok a ↔ x = .ok a := by
  cases x <;> simp [Except.mapError]

theorem pure_eq_ok {a b : α} : (pure a : Except ε α) = .ok b ↔ a = b := by
  simp [pure, Except.pure]

theorem toOption_eq_some {x : Except ε α} {a : α} : x.toOption = some a ↔ x = .ok a := by
  cases x <;> simp [Except.toOption]

/-- What a computation fails with. -/
def error? : Except ε α → Option ε
  | .error e => some e
  | .ok _ => none

theorem error?_eq_some {x : Except ε α} {e : ε} : error? x = some e ↔ x = .error e := by
  cases x <;> simp [error?]

theorem isOk_iff {x : Except ε α} : x.isOk = true ↔ ∃ a, x = .ok a := by
  cases x <;> simp [Except.isOk, Except.toBool]

theorem isOk_bind {x : Except ε α} {f : α → Except ε β} :
    (x >>= f).isOk = true ↔ ∃ a, x = .ok a ∧ (f a).isOk = true := by
  cases x with
  | error e => simp [bind, Except.bind, Except.isOk, Except.toBool]
  | ok a => simp [bind, Except.bind]

@[simp] theorem isOk_map (x : Except ε α) (f : α → β) : (x.map f).isOk = x.isOk := by
  cases x <;> rfl

@[simp] theorem isOk_pure (a : α) : (pure a : Except ε α).isOk = true :=
  isOk_iff.mpr ⟨a, rfl⟩

theorem isOk_mapM {f : α → Except ε β} {xs : List α} :
    (xs.mapM f).isOk = true ↔ ∀ x ∈ xs, (f x).isOk = true := by
  induction xs with
  | nil => simp
  | cons x xs ih =>
    rw [List.mapM_cons, isOk_bind, List.forall_mem_cons, ← ih]
    constructor
    · rintro ⟨y, hx, hrest⟩
      obtain ⟨ys, hxs, -⟩ := isOk_bind.mp hrest
      exact ⟨isOk_iff.mpr ⟨y, hx⟩, isOk_iff.mpr ⟨ys, hxs⟩⟩
    · rintro ⟨hx, hxs⟩
      obtain ⟨y, hx⟩ := isOk_iff.mp hx
      obtain ⟨ys, hxs⟩ := isOk_iff.mp hxs
      exact ⟨y, hx, isOk_bind.mpr ⟨ys, hxs, rfl⟩⟩

theorem forall₂_of_mapM {f : α → Except ε β} {R : α → β → Prop} {xs : List α}
    (hf : ∀ x ∈ xs, ∀ y, f x = .ok y → R x y) {ys : List β} (h : xs.mapM f = .ok ys) :
    List.Forall₂ R xs ys := by
  induction xs generalizing ys with
  | nil =>
    obtain rfl := pure_eq_ok.mp h
    exact .nil
  | cons x xs ih =>
    rw [List.mapM_cons] at h
    obtain ⟨y, hx, h⟩ := bind_eq_ok.mp h
    obtain ⟨rest, hrest, h⟩ := bind_eq_ok.mp h
    obtain rfl := pure_eq_ok.mp h
    exact .cons (hf x List.mem_cons_self y hx)
      (ih (fun z hz => hf z (List.mem_cons_of_mem x hz)) hrest)

theorem exists_of_mem_mapM {f : α → Except ε β} {xs : List α} {ys : List β}
    (h : xs.mapM f = .ok ys) {y : β} (hy : y ∈ ys) : ∃ x ∈ xs, f x = .ok y := by
  have hall : List.Forall₂ (fun x y => f x = .ok y) xs ys := forall₂_of_mapM (fun _ _ _ hx => hx) h
  clear h
  induction hall with
  | nil => cases hy
  | @cons x first xs ys hx _ ih =>
    rcases List.mem_cons.mp hy with rfl | hy
    · exact ⟨x, List.mem_cons_self, hx⟩
    · obtain ⟨z, hz, hfz⟩ := ih hy
      exact ⟨z, List.mem_cons_of_mem x hz, hfz⟩

theorem mapM_eq_map {f : α → Except ε β} {g : α → Except ε γ} {w : γ → β} {xs : List α}
    (h : ∀ x ∈ xs, f x = (g x).map w) : xs.mapM f = (xs.mapM g).map (List.map w) := by
  induction xs with
  | nil => rfl
  | cons x xs ih =>
    rw [List.mapM_cons, List.mapM_cons, h x List.mem_cons_self,
      ih fun y hy => h y (List.mem_cons_of_mem _ hy)]
    cases g x with
    | error e => rfl
    | ok y =>
      cases xs.mapM g with
      | error e => rfl
      | ok ys => rfl

theorem mapM_eq_ok {f : α → Except ε β} {g : α → β} {xs : List α} (h : ∀ x ∈ xs, f x = .ok (g x)) :
    xs.mapM f = .ok (xs.map g) := by
  induction xs with
  | nil => rfl
  | cons x xs ih =>
    rw [List.mapM_cons, h x List.mem_cons_self, ih fun y hy => h y (List.mem_cons_of_mem _ hy)]
    rfl

/-- What is seen of the result of each step is seen of the step. -/
theorem map_of_mapM {f : α → Except ε β} {see : β → γ} {g : α → γ} {xs : List α}
    (hf : ∀ x ∈ xs, ∀ y, f x = .ok y → see y = g x) {ys : List β} (h : xs.mapM f = .ok ys) :
    ys.map see = xs.map g := by
  have hall : List.Forall₂ (fun x y => see y = g x) xs ys := forall₂_of_mapM hf h
  clear hf h
  induction hall with
  | nil => rfl
  | cons hx _ ih => rw [List.map_cons, List.map_cons, hx, ih]

theorem length_of_mapM {f : α → Except ε β} {xs : List α} {ys : List β} (h : xs.mapM f = .ok ys) :
    ys.length = xs.length :=
  (forall₂_of_mapM (fun _ _ _ hx => hx) h).length_eq.symm

theorem getElem?_of_mapM {f : α → Except ε β} {xs : List α} {ys : List β} (h : xs.mapM f = .ok ys)
    {n : Nat} {x : α} (hx : xs[n]? = some x) : ∃ y, f x = .ok y ∧ ys[n]? = some y := by
  have hall : List.Forall₂ (fun x y => f x = .ok y) xs ys := forall₂_of_mapM (fun _ _ _ hx => hx) h
  clear h
  induction hall generalizing n with
  | nil => cases hx
  | cons hfirst _ ih =>
    cases n with
    | zero =>
      obtain rfl := Option.some.inj hx
      exact ⟨_, hfirst, rfl⟩
    | succ n => exact ih hx

/-- A sequence of steps fails as the first step that fails does. -/
theorem mapM_eq_error {f : α → Except ε β} {xs : List α} {e : ε} :
    xs.mapM f = .error e ↔
      ∃ front x back, xs = front ++ x :: back ∧ (∀ y ∈ front, (f y).isOk = true) ∧
        f x = .error e := by
  induction xs with
  | nil =>
    refine iff_of_false (fun h => by cases h) ?_
    rintro ⟨front, x, back, hnil, -⟩
    simp at hnil
  | cons x xs ih =>
    rw [List.mapM_cons]
    cases hx : f x with
    | error first =>
      constructor
      · intro h
        obtain rfl := Except.error.inj h
        exact ⟨[], x, xs, rfl, by simp, hx⟩
      · rintro ⟨front, y, back, hxs, hfront, hy⟩
        cases front with
        | nil =>
          obtain ⟨rfl, -⟩ := List.cons.inj hxs
          rw [hx] at hy
          exact congrArg Except.error (Except.error.inj hy)
        | cons z front =>
          obtain ⟨rfl, -⟩ := List.cons.inj hxs
          have hok := hfront x List.mem_cons_self
          rw [hx] at hok
          cases hok
    | ok y =>
      rw [ok_bind]
      have hrest : (do let ys ← xs.mapM f; pure (y :: ys)) = .error e ↔ xs.mapM f = .error e := by
        cases xs.mapM f <;> simp [bind, Except.bind, pure, Except.pure]
      rw [hrest, ih]
      constructor
      · rintro ⟨front, z, back, rfl, hfront, hz⟩
        exact ⟨x :: front, z, back, rfl, List.forall_mem_cons.mpr ⟨by rw [hx]; rfl, hfront⟩, hz⟩
      · rintro ⟨front, z, back, hxs, hfront, hz⟩
        cases front with
        | nil =>
          obtain ⟨rfl, -⟩ := List.cons.inj hxs
          rw [hx] at hz
          cases hz
        | cons w front =>
          obtain ⟨rfl, rfl⟩ := List.cons.inj hxs
          exact ⟨front, z, back, rfl, (List.forall_mem_cons.mp hfront).2, hz⟩

/-- Steps in another order succeed together, and give the same results in some order. -/
theorem mapM_perm {f : α → Except ε β} {xs ys : List α} (h : xs.Perm ys) {zs : List β}
    (hxs : xs.mapM f = .ok zs) : ∃ ws, ys.mapM f = .ok ws ∧ zs.Perm ws := by
  have hsucceeds : ∀ y ∈ ys, (f y).isOk = true := fun y hy =>
    isOk_mapM.mp (isOk_iff.mpr ⟨zs, hxs⟩) y (h.mem_iff.mpr hy)
  obtain ⟨ws, hws⟩ := isOk_iff.mp (isOk_mapM.mpr hsucceeds)
  refine ⟨ws, hws, ?_⟩
  have hsome : ∀ {us : List α} {vs : List β}, us.mapM f = .ok vs →
      vs.map some = us.map fun u => (f u).toOption := fun hus =>
    map_of_mapM (fun u _ v hv => by rw [hv]; rfl) hus
  have hmapped : (zs.map some).Perm (ws.map some) := by
    rw [hsome hxs, hsome hws]
    exact h.map _
  simpa [List.filterMap_map] using hmapped.filterMap id

/-- Whatever a computation fails with has a property. -/
def FailsWith (P : ε → Prop) (x : Except ε α) : Prop := ∀ e, x = .error e → P e

section FailsWith

variable {P Q : ε → Prop} {x : Except ε α}

theorem failsWith_ok (a : α) : FailsWith P (.ok a : Except ε α) := nofun

theorem failsWith_error {e : ε} (h : P e) : FailsWith P (.error e : Except ε α) := by
  rintro _ ⟨⟩
  exact h

theorem FailsWith.imp (h : FailsWith P x) (hPQ : ∀ e, P e → Q e) : FailsWith Q x :=
  fun e he => hPQ e (h e he)

theorem FailsWith.bind {f : α → Except ε β} (h : FailsWith P x)
    (hf : ∀ a, x = .ok a → FailsWith P (f a)) : FailsWith P (x >>= f) := by
  intro e he
  rcases bind_eq_error.mp he with he | ⟨a, ha, he⟩
  · exact h e he
  · exact hf a ha e he

theorem FailsWith.map {f : α → β} (h : FailsWith P x) : FailsWith P (x.map f) := by
  cases x with
  | error e => exact failsWith_error (h e rfl)
  | ok a => exact failsWith_ok (f a)

theorem failsWith_mapM {f : α → Except ε β} {xs : List α} (h : ∀ a ∈ xs, FailsWith P (f a)) :
    FailsWith P (xs.mapM f) := by
  induction xs with
  | nil => exact failsWith_ok []
  | cons a as ih =>
    rw [List.mapM_cons]
    refine (h a List.mem_cons_self).bind fun b _ => ?_
    exact (ih fun c hc => h c (List.mem_cons_of_mem a hc)).bind fun bs _ => failsWith_ok (b :: bs)

end FailsWith

theorem map_flatten_of_mapM {f : α → Except ε (List β)} {see : β → γ} {g : α → List γ}
    {xs : List α} (hf : ∀ x ∈ xs, ∀ ys, f x = .ok ys → ys.map see = g x) {yss : List (List β)}
    (h : xs.mapM f = .ok yss) : yss.flatten.map see = xs.flatMap g := by
  have hall : List.Forall₂ (fun x ys => ys.map see = g x) xs yss := forall₂_of_mapM hf h
  clear hf h
  induction hall with
  | nil => rfl
  | cons hx _ ih => rw [List.flatten_cons, List.map_append, List.flatMap_cons, hx, ih]

end ScriptProfiling
