import MipsEncoding.Run

/-! Sequences of steps that may fail. A sequence succeeds exactly if each of its steps does, and it
fails only for the causes of its steps (`Run.FailsOnly`). A pass over a list fails for the cause of
the leftmost step that fails. -/
namespace MipsEncoding

section Sequences

variable {ε α β : Type}

theorem bind_eq_ok_iff {x : Except ε α} {f : α → Except ε β} {b : β} :
    x >>= f = .ok b ↔ ∃ a, x = .ok a ∧ f a = .ok b := by
  cases x <;> simp [bind, Except.bind]

theorem bind_eq_error_iff {x : Except ε α} {f : α → Except ε β} {e : ε} :
    x >>= f = .error e ↔ x = .error e ∨ ∃ a, x = .ok a ∧ f a = .error e := by
  cases x <;> simp [bind, Except.bind]

theorem map_eq_ok_iff {x : Except ε α} {f : α → β} {b : β} :
    x.map f = .ok b ↔ ∃ a, x = .ok a ∧ b = f a := by
  cases x <;> simp [Except.map, eq_comm]

theorem map_eq_error_iff {x : Except ε α} {f : α → β} {e : ε} :
    x.map f = .error e ↔ x = .error e := by
  cases x <;> simp [Except.map]

theorem exists_ok_of_toOption_map {x : Except ε α} {f : α → β} {b : β}
    (h : x.toOption.map f = some b) : ∃ a, x = .ok a ∧ f a = b := by
  cases x with
  | ok a => exact ⟨a, rfl, by simpa [Except.toOption] using h⟩
  | error e => simp [Except.toOption] at h

/-- A pass over a list succeeds exactly if every step does. -/
theorem mapM_eq_ok_iff {f : α → Except ε β} {as : List α} {bs : List β} :
    as.mapM f = .ok bs ↔ as.map f = bs.map .ok := by
  induction as generalizing bs with
  | nil => cases bs <;> simp [pure, Except.pure]
  | cons a as ih =>
    simp only [List.mapM_cons, bind_eq_ok_iff, ih]
    cases bs with
    | nil => simp [pure, Except.pure]
    | cons b bs =>
      constructor
      · rintro ⟨b', hb, bs', hbs, ⟨⟩⟩
        rw [List.map_cons, List.map_cons, hb, hbs]
      · intro h
        obtain ⟨hb, hbs⟩ := List.cons_eq_cons.mp h
        exact ⟨b, hb, bs, hbs, rfl⟩

/-- The first entry of a list with a property. -/
inductive Leftmost (p : α → Prop) : List α → α → Prop
  | here {a : α} {as : List α} (holds : p a) : Leftmost p (a :: as) a
  | there {a b : α} {as : List α} (fails : ¬ p b) (more : Leftmost p as a) : Leftmost p (b :: as) a

namespace Leftmost

variable {p q : α → Prop} {as : List α} {a : α}

theorem mem (h : Leftmost p as a) : a ∈ as := by
  induction h with
  | here _ => exact List.mem_cons_self
  | there _ _ ih => exact List.mem_cons_of_mem _ ih

theorem holds (h : Leftmost p as a) : p a := by
  induction h with
  | here holds => exact holds
  | there _ _ ih => exact ih

theorem congr (h : Leftmost p as a) (hpq : ∀ b ∈ as, p b ↔ q b) : Leftmost q as a := by
  induction h with
  | here holds => exact .here ((hpq _ List.mem_cons_self).mp holds)
  | there fails _ ih =>
    obtain ⟨hfirst, hrest⟩ := List.forall_mem_cons.mp hpq
    exact .there (fun hq => fails (hfirst.mpr hq)) (ih hrest)

end Leftmost

/-- A pass over a list fails for the cause of the first step that fails. -/
theorem mapM_eq_error_iff {f : α → Except ε β} {as : List α} {e : ε} :
    as.mapM f = .error e ↔ ∃ a, Leftmost (fun a => ∃ e, f a = .error e) as a ∧ f a = .error e := by
  induction as with
  | nil =>
    constructor
    · intro h
      simp [pure, Except.pure] at h
    · intro h
      obtain ⟨a, ha, -⟩ := h
      cases ha
  | cons b as ih =>
    rw [List.mapM_cons, bind_eq_error_iff]
    constructor
    · intro h
      rcases h with hb | ⟨x, hb, hrest⟩
      · exact ⟨b, .here ⟨e, hb⟩, hb⟩
      · obtain hrest | ⟨xs, -, hpure⟩ := bind_eq_error_iff.mp hrest
        · obtain ⟨a, ha, hcause⟩ := ih.mp hrest
          exact ⟨a, .there (by simp [hb]) ha, hcause⟩
        · cases hpure
    · intro h
      obtain ⟨a, ha, hcause⟩ := h
      cases ha with
      | here => exact .inl hcause
      | there fails more =>
        cases hb : f b with
        | error e' => exact absurd ⟨e', hb⟩ fails
        | ok x => exact .inr ⟨x, rfl, bind_eq_error_iff.mpr (.inl (ih.mpr ⟨a, more, hcause⟩))⟩

end Sequences

namespace Run

variable {ε ε' α β : Type}

@[simp] theorem outcome_ok (a : α) : (ok a : Run ε α).outcome = .ok a := rfl

@[simp] theorem outcome_fail (e : ε) : (fail e : Run ε α).outcome = .error e := rfl

@[simp] theorem outcome_note (r : Record) : (note r : Run ε Unit).outcome = .ok () := rfl

@[simp] theorem outcome_failNoting (r : Record) (e : ε) :
    (failNoting r e : Run ε α).outcome = .error e := rfl

@[simp] theorem outcome_ofExcept (x : Except ε α) : (ofExcept x).outcome = x := rfl

@[simp] theorem ok_bind (a : α) (f : α → Run ε β) : (ok a >>= f) = f a := rfl

@[simp] theorem fail_bind (e : ε) (f : α → Run ε β) : (fail e >>= f) = fail e := rfl

@[simp] theorem pure_eq_ok (a : α) : (pure a : Run ε α) = ok a := rfl

@[simp] theorem ofExcept_ok (a : α) : (ofExcept (.ok a) : Run ε α) = ok a := rfl

@[simp] theorem ofExcept_error (e : ε) : (ofExcept (.error e) : Run ε α) = fail e := rfl

theorem outcome_mapError_eq_ok_iff {f : ε → ε'} {x : Run ε α} {a : α} :
    (x.mapError f).outcome = .ok a ↔ x.outcome = .ok a := by
  obtain ⟨log, outcome⟩ := x
  cases outcome with
  | ok b =>
    change (.ok b : Except ε' α) = .ok a ↔ (.ok b : Except ε α) = .ok a
    simp
  | error cause =>
    change (.error (f cause) : Except ε' α) = .ok a ↔ (.error cause : Except ε α) = .ok a
    simp

theorem outcome_mapError_eq_error_iff {f : ε → ε'} {x : Run ε α} {e : ε'} :
    (x.mapError f).outcome = .error e ↔ ∃ cause, x.outcome = .error cause ∧ f cause = e := by
  obtain ⟨log, outcome⟩ := x
  cases outcome with
  | ok b =>
    change (.ok b : Except ε' α) = .error e ↔
      ∃ cause, (.ok b : Except ε α) = .error cause ∧ f cause = e
    simp
  | error cause' =>
    change (.error (f cause') : Except ε' α) = .error e ↔
      ∃ cause, (.error cause' : Except ε α) = .error cause ∧ f cause = e
    simp

@[simp] theorem mapError_ok (f : ε → ε') (a : α) : (ok a).mapError f = ok a := rfl

@[simp] theorem mapError_fail (f : ε → ε') (e : ε) :
    (fail e : Run ε α).mapError f = fail (f e) := rfl

/-- A run without a record at the level of errors that fails for no cause outside `P`. -/
structure FailsOnly (P : ε → Prop) (x : Run ε α) : Prop where
  quiet : ∀ r ∈ x.log, r.level ≠ .error
  cause : ∀ e, x.outcome = .error e → P e

namespace FailsOnly

variable {P : ε → Prop} {Q : ε' → Prop}

theorem of_ok (a : α) : (ok a).FailsOnly P := ⟨by simp [ok], by simp⟩

theorem of_fail {e : ε} (h : P e) : (fail e : Run ε α).FailsOnly P :=
  ⟨by simp [fail], by simpa using h⟩

theorem of_note {r : Record} (h : r.level ≠ .error) : (note r).FailsOnly P :=
  ⟨by simpa [note] using h, by simp⟩

theorem of_except {x : Except ε α} (h : ∀ e, x = .error e → P e) : (ofExcept x).FailsOnly P :=
  ⟨by simp [ofExcept], h⟩

theorem mapError {x : Run ε α} (hx : x.FailsOnly P) {f : ε → ε'} (hf : ∀ e, P e → Q (f e)) :
    (x.mapError f).FailsOnly Q := by
  refine ⟨hx.quiet, ?_⟩
  intro e he
  obtain ⟨cause, hcause, rfl⟩ := outcome_mapError_eq_error_iff.mp he
  exact hf cause (hx.cause cause hcause)

/-- A sequence fails only for causes of its first part and of its second part after the first. -/
theorem bind {x : Run ε α} {f : α → Run ε β} (hx : x.FailsOnly P)
    (hf : ∀ a, x.outcome = .ok a → (f a).FailsOnly P) : (x >>= f).FailsOnly P := by
  cases h : x.outcome with
  | ok a =>
    constructor
    · intro r hr
      rw [log_bind_ok h, List.mem_append] at hr
      rcases hr with hr | hr
      · exact hx.quiet r hr
      · exact (hf a h).quiet r hr
    · intro e he
      rw [outcome_bind, h] at he
      exact (hf a h).cause e he
  | error e' =>
    constructor
    · intro r hr
      rw [log_bind_error h] at hr
      exact hx.quiet r hr
    · intro e he
      rw [outcome_bind, h] at he
      cases he
      exact hx.cause e' h

end FailsOnly

end Run

end MipsEncoding
