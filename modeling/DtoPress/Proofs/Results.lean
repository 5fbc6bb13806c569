import DtoPress.Fault
import Mathlib.Data.List.Forall2

/-!
# Computations that can fail

When a computation succeeds, and what it made on the way : of a sequence
(`bind_eq_ok_iff`, and `bind_eq_error_iff` for when it fails), and of a computation carried out for
each item of a list (`exists_mapM_ok`, `mem_mapM_ok`). A computation that can fault answers if it
does not : `Answers` is closed under sequences and under computations for each item of a list.
-/

namespace DtoPress

variable {ε δ α β γ : Type}

@[simp] theorem bind_ok (a : α) (f : α → Except ε β) : (Except.ok a >>= f) = f a := rfl

@[simp] theorem bind_error (e : ε) (f : α → Except ε β) :
    (Except.error e >>= f) = Except.error e := rfl

@[simp] theorem throw_eq_error (e : ε) : (throw e : Except ε α) = .error e := rfl

@[simp] theorem pure_eq_ok (a : α) : (pure a : Except ε α) = .ok a := rfl

theorem bind_eq_ok_iff {r : Except ε α} {f : α → Except ε β} {b : β} :
    (r >>= f) = .ok b ↔ ∃ a, r = .ok a ∧ f a = .ok b := by
  cases r <;> simp

theorem bind_eq_error_iff {r : Except ε α} {f : α → Except ε β} {e : ε} :
    (r >>= f) = .error e ↔ r = .error e ∨ ∃ a, r = .ok a ∧ f a = .error e := by
  cases r <;> simp

theorem mapError_ok (f : ε → δ) (a : α) : (Except.ok a).mapError f = .ok a := rfl

theorem mapError_error (f : ε → δ) (e : ε) :
    (Except.error e : Except ε α).mapError f = .error (f e) := rfl

theorem mapError_eq_ok_iff {f : ε → δ} {r : Except ε α} {a : α} :
    r.mapError f = .ok a ↔ r = .ok a := by
  cases r with
  | error e => exact ⟨fun h => (by cases h), fun h => (by cases h)⟩
  | ok b => exact ⟨fun h => congrArg _ (Except.ok.inj h), fun h => congrArg _ (Except.ok.inj h)⟩

theorem mapError_eq_error_iff {f : ε → δ} {r : Except ε α} {d : δ} :
    r.mapError f = .error d ↔ ∃ e, r = .error e ∧ f e = d := by
  cases r with
  | error e => simp [mapError_error]
  | ok a => simp [mapError_ok]

theorem map_eq_error_iff {f : α → β} {r : Except ε α} {e : ε} :
    r.map f = .error e ↔ r = .error e := by
  cases r with
  | error d =>
    exact ⟨fun h => congrArg _ (Except.error.inj h), fun h => congrArg _ (Except.error.inj h)⟩
  | ok a => exact ⟨fun h => (by cases h), fun h => (by cases h)⟩

theorem widen_ok (g : ε → δ) (a : α) :
    Trouble.widen g (.ok a : Except (Trouble ε) α) = .ok a := rfl

theorem widen_error (g : ε → δ) (e : Trouble ε) :
    Trouble.widen g (.error e : Except (Trouble ε) α) = .error (e.map g) := rfl

theorem ofFault_ok (a : α) : (Trouble.ofFault (.ok a) : Except (Trouble ε) α) = .ok a := rfl

theorem ofFault_error (f : Fault) :
    (Trouble.ofFault (.error f) : Except (Trouble ε) α) = .error (.fault f) := rfl

theorem ofFault_bind (r : Except Fault α) (f : α → Except Fault β) :
    (Trouble.ofFault (r >>= f) : Except (Trouble ε) β) =
      Trouble.ofFault r >>= fun a => Trouble.ofFault (f a) := by
  cases r <;> rfl

/-- A program in sequence, which keeps what it has changed by the time it fails. -/
theorem run_run_bind {σ : Type} (x : ExceptT ε (StateM σ) α) (f : α → ExceptT ε (StateM σ) β)
    (s : σ) : (x >>= f).run.run s =
      match x.run.run s with
      | (.ok a, after) => (f a).run.run after
      | (.error e, after) => (.error e, after) := by
  rw [ExceptT.run_bind, StateT.run_bind]
  generalize x.run.run s = ran
  obtain ⟨answer, after⟩ := ran
  cases answer with
  | error e => rfl
  | ok a => rfl

/-! ## One computation for each item -/

variable {f : α → Except ε β}

theorem exists_mapM_ok : ∀ {l : List α}, (∀ a ∈ l, ∃ b, f a = .ok b) → ∃ bs, l.mapM f = .ok bs
  | [], _ => ⟨[], rfl⟩
  | a :: l, h => by
    obtain ⟨b, hb⟩ := h a List.mem_cons_self
    obtain ⟨bs, hbs⟩ := exists_mapM_ok fun c hc => h c (List.mem_cons_of_mem a hc)
    exact ⟨b :: bs, by rw [List.mapM_cons, hb, hbs]; rfl⟩

theorem mapM_eq_ok_map {g : α → β} : ∀ {l : List α}, (∀ a ∈ l, f a = .ok (g a)) →
    l.mapM f = .ok (l.map g)
  | [], _ => rfl
  | a :: l, h => by
    obtain ⟨ha, hl⟩ := List.forall_mem_cons.1 h
    rw [List.mapM_cons, ha, mapM_eq_ok_map hl]
    rfl

theorem mapM_cons_eq_ok {a : α} {l : List α} {bs : List β} (h : (a :: l).mapM f = .ok bs) :
    ∃ b cs, f a = .ok b ∧ l.mapM f = .ok cs ∧ bs = b :: cs := by
  rw [List.mapM_cons] at h
  obtain ⟨b, hb, h⟩ := bind_eq_ok_iff.1 h
  obtain ⟨cs, hcs, h⟩ := bind_eq_ok_iff.1 h
  exact ⟨b, cs, hb, hcs, (Except.ok.inj h).symm⟩

theorem eq_ok_of_mem_zip : ∀ {l : List α} {bs : List β} {a : α} {b : β},
    l.mapM f = .ok bs → (a, b) ∈ l.zip bs → f a = .ok b
  | [], _, _, _, _, hab => by simp at hab
  | c :: l, bs, a, b, h, hab => by
    obtain ⟨d, ds, hd, hds, rfl⟩ := mapM_cons_eq_ok h
    rw [List.zip_cons_cons] at hab
    rcases List.mem_cons.1 hab with hab | hab
    · obtain ⟨rfl, rfl⟩ := Prod.mk.inj hab
      exact hd
    · exact eq_ok_of_mem_zip hds hab

/-- What is made of a list is made of its items. -/
theorem mem_mapM_ok : ∀ {l : List α} {bs : List β} {b : β}, l.mapM f = .ok bs →
    (b ∈ bs ↔ ∃ a ∈ l, f a = .ok b)
  | [], bs, b, h => by
    obtain rfl : [] = bs := Except.ok.inj h
    simp
  | a :: l, bs, b, h => by
    obtain ⟨c, cs, hc, hcs, rfl⟩ := mapM_cons_eq_ok h
    have hb : f a = .ok b ↔ b = c := by rw [hc, Except.ok.injEq, eq_comm]
    rw [List.mem_cons, mem_mapM_ok hcs]
    simp [hb]

/-- A computation that is carried out for each item of a list succeeds for each of them. -/
theorem exists_of_mapM_ok : ∀ {l : List α} {bs : List β}, l.mapM f = .ok bs →
    ∀ a ∈ l, ∃ b ∈ bs, f a = .ok b
  | [], _, _, _, ha => absurd ha List.not_mem_nil
  | c :: l, bs, h, a, ha => by
    obtain ⟨d, ds, hd, hds, rfl⟩ := mapM_cons_eq_ok h
    rcases List.mem_cons.1 ha with rfl | ha
    · exact ⟨d, List.mem_cons_self, hd⟩
    · obtain ⟨b, hb, hab⟩ := exists_of_mapM_ok hds a ha
      exact ⟨b, List.mem_cons_of_mem d hb, hab⟩

/-- What is read off the results can be read off the items. -/
theorem map_of_mapM_ok {g : β → γ} {k : α → γ} (hgk : ∀ a b, f a = .ok b → g b = k a) :
    ∀ {l : List α} {bs : List β}, l.mapM f = .ok bs → bs.map g = l.map k
  | [], bs, h => by
    obtain rfl : [] = bs := Except.ok.inj h
    rfl
  | a :: l, bs, h => by
    obtain ⟨b, cs, hb, hcs, rfl⟩ := mapM_cons_eq_ok h
    rw [List.map_cons, List.map_cons, hgk a b hb, map_of_mapM_ok hgk hcs]

/-- Lists that are all empty together are each empty. -/
theorem eq_nil_of_mapM_flatten {f : α → Except ε (List β)} {l : List α} {bs : List (List β)}
    (h : l.mapM f = .ok bs) (hbs : bs.flatten = []) : ∀ a ∈ l, f a = .ok [] := by
  intro a ha
  obtain ⟨b, hb, hab⟩ := exists_of_mapM_ok h a ha
  rw [hab, List.flatten_eq_nil_iff.1 hbs b hb]

theorem forall₂_map_same {R : β → γ → Prop} {f : α → β} {g : α → γ} {l : List α}
    (h : ∀ a ∈ l, R (f a) (g a)) : List.Forall₂ R (l.map f) (l.map g) := by
  rw [List.forall₂_map_left_iff, List.forall₂_map_right_iff, List.forall₂_same]
  exact h

/-! ## Computations that match -/

/-- Both answer, with answers that are related, or both fail in the same way. -/
def Matches (R : α → β → Prop) : Except ε α → Except ε β → Prop
  | .ok a, .ok b => R a b
  | .error e, .error e' => e = e'
  | _, _ => False

theorem Matches.mono {R S : α → β → Prop} (himp : ∀ a b, R a b → S a b) :
    ∀ {r : Except ε α} {r' : Except ε β}, Matches R r r' → Matches S r r'
  | .ok a, .ok b, h => himp a b h
  | .error _, .error _, h => h

/-- Computations that both succeed for each item, with related values, do so for a list. -/
theorem exists_mapM_forall₂ {R : β → γ → Prop} {f : α → Except ε β} {g : α → Except ε γ} :
    ∀ {l : List α}, (∀ a ∈ l, ∃ b c, f a = .ok b ∧ g a = .ok c ∧ R b c) →
      ∃ bs cs, l.mapM f = .ok bs ∧ l.mapM g = .ok cs ∧ List.Forall₂ R bs cs
  | [], _ => ⟨[], [], rfl, rfl, .nil⟩
  | a :: l, h => by
    obtain ⟨b, c, hb, hc, hbc⟩ := h a List.mem_cons_self
    obtain ⟨bs, cs, hbs, hcs, hrest⟩ :=
      exists_mapM_forall₂ fun d hd => h d (List.mem_cons_of_mem a hd)
    refine ⟨b :: bs, c :: cs, ?_, ?_, .cons hbc hrest⟩
    · rw [List.mapM_cons, hb, hbs]
      rfl
    · rw [List.mapM_cons, hc, hcs]
      rfl

/-! ## Computations that do not fault -/

/-- The computation ends in a value with the property or in an error with a cause. -/
def Answers (P : α → Prop) : Except (Trouble ε) α → Prop
  | .ok a => P a
  | .error (.cause _) => True
  | .error (.fault _) => False

section Answers

variable {P Q : α → Prop} {R : β → Prop} {r : Except (Trouble ε) α}

instance [DecidablePred P] : ∀ r : Except (Trouble ε) α, Decidable (Answers P r)
  | .ok a => inferInstanceAs (Decidable (P a))
  | .error (.cause _) => inferInstanceAs (Decidable True)
  | .error (.fault _) => inferInstanceAs (Decidable False)

@[simp] theorem answers_ok {a : α} : Answers P (.ok a : Except (Trouble ε) α) ↔ P a := .rfl

@[simp] theorem answers_cause (e : ε) : Answers P (.error (.cause e)) := trivial

@[simp] theorem not_answers_fault (f : Fault) :
    ¬ Answers P (.error (.fault f) : Except (Trouble ε) α) := id

/-- A computation that does not fault has a value or a cause. -/
theorem Answers.exists_or (h : Answers P r) :
    (∃ a, r = .ok a ∧ P a) ∨ ∃ e, r = .error (.cause e) := by
  match r, h with
  | .ok a, h => exact .inl ⟨a, rfl, h⟩
  | .error (.cause e), _ => exact .inr ⟨e, rfl⟩

theorem Answers.mono (h : Answers P r) (himp : ∀ a, P a → Q a) : Answers Q r := by
  match r, h with
  | .ok a, h => exact himp a h
  | .error (.cause _), _ => trivial

theorem Answers.and (h : Answers P r) (hQ : ∀ a, r = .ok a → Q a) :
    Answers (fun a => P a ∧ Q a) r := by
  match r, h with
  | .ok a, h => exact ⟨h, hQ a rfl⟩
  | .error (.cause e), _ => trivial

theorem Answers.bind {f : α → Except (Trouble ε) β} (h : Answers P r)
    (hf : ∀ a, P a → Answers R (f a)) : Answers R (r >>= f) := by
  match r, h with
  | .ok a, h => exact hf a h
  | .error (.cause _), _ => trivial

/-- Trouble that is no fault is none when its cause is seen as another one. -/
theorem Answers.error_map {e : Trouble ε} (h : Answers P (.error e : Except (Trouble ε) α))
    (g : ε → δ) : Answers R (.error (e.map g) : Except (Trouble δ) β) := by
  match e, h with
  | .cause _, _ => trivial

theorem answers_ofFault {r : Except Fault α} (h : ∃ a, r = .ok a ∧ P a) :
    Answers P (Trouble.ofFault r : Except (Trouble ε) α) := by
  obtain ⟨a, rfl, ha⟩ := h
  exact ha

theorem answers_bind_iff {f : α → Except (Trouble ε) β} :
    Answers R (r >>= f) ↔ Answers (fun a => Answers R (f a)) r := by
  match r with
  | .ok _ => rfl
  | .error (.cause _) => rfl
  | .error (.fault _) => rfl

theorem answers_widen_iff (g : ε → δ) : Answers P (Trouble.widen g r) ↔ Answers P r := by
  match r with
  | .ok _ => rfl
  | .error (.cause _) => rfl
  | .error (.fault _) => rfl

theorem answers_ofFault_iff {r : Except Fault α} :
    Answers P (Trouble.ofFault r : Except (Trouble ε) α) ↔ ∃ a, r = .ok a ∧ P a := by
  cases r with
  | ok a => exact ⟨fun h => ⟨a, rfl, h⟩, answers_ofFault⟩
  | error f => exact ⟨fun h => h.elim, answers_ofFault⟩

theorem answers_mapM {f : α → Except (Trouble ε) β} : ∀ {l : List α},
    (∀ a ∈ l, Answers R (f a)) → Answers (fun bs => ∀ b ∈ bs, R b) (l.mapM f)
  | [], _ => by
    show ∀ b ∈ [], R b
    simp
  | a :: l, h => by
    rw [List.mapM_cons]
    refine (h a List.mem_cons_self).bind fun b hb => ?_
    refine (answers_mapM fun c hc => h c (List.mem_cons_of_mem a hc)).bind fun bs hbs => ?_
    exact List.forall_mem_cons.2 ⟨hb, hbs⟩

end Answers

end DtoPress
