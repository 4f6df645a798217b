import Mathlib.Logic.Equiv.Defs
import Mathlib.Tactic.Choose
import PagedSelect.Proofs.Select.Change
/-!
# Additions in another order

Patterns are added to a query one after another, each under the next parameters.  In another order they add
the same predicates with the same values, up to a permutation of the numbers of the new parameters.
-/

namespace PagedSelect

variable {ι : Type} {σ : Nat → Nat}

/-! ## Placed patterns -/

/-- A predicate with the values of its parameters, each value with the number of its parameter. -/
structure Placed where
  predicate : Predicate
  values : List (Value × Nat)

/-- The parameters are numbered from `first` on, and the predicate asks for them in this order. -/
structure Placed.At (first : Nat) (p : Placed) : Prop where
  numbers : p.values.map Prod.snd = List.range' first p.values.length
  params : p.predicate.params = p.values.map Prod.snd

/-- Other numbers for the parameters. -/
def Placed.renumber (σ : Nat → Nat) (p : Placed) : Placed :=
  ⟨p.predicate.renumber σ, p.values.map fun v => (v.1, σ v.2)⟩

/-- A pattern with its parameters numbered from `first` on. -/
def Pattern.place (first : Nat) (p : Pattern) : Placed :=
  ⟨p.predicate.renumber (first + ·), p.values.zipIdx first⟩

theorem Placed.renumber_renumber {σ τ : Nat → Nat} (p : Placed) :
    (p.renumber σ).renumber τ = p.renumber (τ ∘ σ) := by
  rw [renumber, renumber, renumber, Predicate.renumber_renumber, List.map_map]
  rfl

theorem zipIdx_renumber {m n : Nat} {vs : List Value} (h : ∀ i < vs.length, σ (m + i) = n + i) :
    (vs.zipIdx m).map (fun v => (v.1, σ v.2)) = vs.zipIdx n := by
  induction vs generalizing m n with
  | nil => rfl
  | cons v r ih =>
    have hv : σ m = n := h 0 (Nat.zero_lt_succ _)
    have hr : ∀ i < r.length, σ (m + 1 + i) = n + 1 + i := fun i hi => by
      simpa only [Nat.add_assoc, Nat.add_comm 1] using h (i + 1) (Nat.succ_lt_succ hi)
    rw [List.zipIdx_cons, List.zipIdx_cons, List.map_cons, ih hr, hv]

/-- A pattern is taken to another place if its numbers are. -/
theorem Pattern.renumber_place {m n : Nat} {p : Pattern} (h : ∀ i < p.values.length, σ (m + i) = n + i) :
    (p.place m).renumber σ = p.place n := by
  have hpredicate : (p.predicate.renumber (m + ·)).renumber σ = p.predicate.renumber (n + ·) := by
    rw [Predicate.renumber_renumber]
    refine Predicate.renumber_congr fun i hi => h i ?_
    rwa [p.params_eq, List.mem_range] at hi
  rw [place, place, Placed.renumber, hpredicate, zipIdx_renumber h]

/-! ## Additions one after another -/

/-- What comes from a source, if anything does. -/
abbrev Addition (ι α : Type) := ι × Option α

namespace Addition

/-- How many parameters an addition takes. -/
def width (a : Addition ι Pattern) : Nat := (a.2.map (·.values.length)).getD 0

def place (first : Nat) (a : Addition ι Pattern) : Addition ι Placed := (a.1, a.2.map (Pattern.place first))

def renumber (σ : Nat → Nat) (a : Addition ι Placed) : Addition ι Placed := (a.1, a.2.map (Placed.renumber σ))

theorem renumber_renumber {σ τ : Nat → Nat} (a : Addition ι Placed) :
    renumber τ (renumber σ a) = renumber (τ ∘ σ) a := by
  rw [renumber, renumber, renumber, Option.map_map]
  congr 2
  exact funext Placed.renumber_renumber

theorem renumber_place {m n : Nat} {a : Addition ι Pattern} (h : ∀ i < a.width, σ (m + i) = n + i) :
    renumber σ (a.place m) = a.place n := by
  obtain ⟨source, p?⟩ := a
  cases p? with
  | none => rfl
  | some p => exact congrArg (fun p => (source, some p)) (Pattern.renumber_place h)

/-- Additions in their places, each behind those before it. -/
def placeAll (first : Nat) : List (Addition ι Pattern) → List (Addition ι Placed)
  | [] => []
  | a :: r => a.place first :: placeAll (first + a.width) r

theorem placeAll_sources (first : Nat) (as : List (Addition ι Pattern)) :
    (placeAll first as).map Prod.fst = as.map Prod.fst := by
  induction as generalizing first with
  | nil => rfl
  | cons a r ih =>
    rw [placeAll, List.map_cons, List.map_cons, ih]
    rfl

/-- The parameters that additions take together. -/
def total : List (Addition ι Pattern) → Nat
  | [] => 0
  | a :: r => a.width + total r

theorem placeAll_renumber {first : Nat} {as : List (Addition ι Pattern)} (h : ∀ n, first ≤ n → σ n = n) :
    (placeAll first as).map (renumber σ) = placeAll first as := by
  induction as generalizing first with
  | nil => rfl
  | cons a r ih =>
    rw [placeAll, List.map_cons, renumber_place (fun i _ => h _ (Nat.le_add_right first i)),
      ih fun n hn => h n (Nat.le_trans (Nat.le_add_right first _) hn)]

/-- What is in another order takes as many parameters. -/
theorem total_eq_of_perm {as as' : List (Addition ι Pattern)} (h : as.Perm as') : total as = total as' := by
  induction h with
  | nil => rfl
  | cons a _ ih => rw [total, total, ih]
  | swap a b r => simp only [total, Nat.add_left_comm]
  | trans _ _ ih ih' => exact ih.trans ih'

/-! ## Two neighbours -/

/-- Behind `first`, the numbers of a block of width `a` change places with those of a block of width `b`. -/
def swapNumber (first a b n : Nat) : Nat :=
  if n < first then n else if n < first + a then n + b else if n < first + a + b then n - a else n

theorem swapNumber_swapNumber (first a b n : Nat) : swapNumber first b a (swapNumber first a b n) = n := by
  unfold swapNumber
  split_ifs <;> omega

/-- Two blocks of numbers that change places. -/
def swapBlocks (first a b : Nat) : Equiv.Perm Nat where
  toFun := swapNumber first a b
  invFun := swapNumber first b a
  left_inv := swapNumber_swapNumber first a b
  right_inv := swapNumber_swapNumber first b a

theorem swapBlocks_of_lt {first a b i : Nat} (h : i < a) : swapBlocks first a b (first + i) = first + b + i := by
  change swapNumber first a b (first + i) = _
  rw [swapNumber, if_neg (by omega), if_pos (by omega), Nat.add_right_comm]

theorem swapBlocks_add {first a b i : Nat} (h : i < b) : swapBlocks first a b (first + a + i) = first + i := by
  change swapNumber first a b (first + a + i) = _
  rw [swapNumber, if_neg (by omega), if_neg (by omega), if_pos (by omega)]
  omega

theorem swapBlocks_of_le {first a b n : Nat} (h : first + a + b ≤ n) : swapBlocks first a b n = n := by
  change swapNumber first a b n = _
  rw [swapNumber, if_neg (by omega), if_neg (by omega), if_neg (by omega)]

theorem swapBlocks_ne {first a b n : Nat} (h : swapBlocks first a b n ≠ n) : first ≤ n ∧ n < first + a + b := by
  refine ⟨Nat.le_of_not_lt fun hn => h ?_, Nat.lt_of_not_le fun hn => h (swapBlocks_of_le hn)⟩
  change swapNumber first a b n = _
  rw [swapNumber, if_pos hn]

/-! ## Any order -/

/-- Additions in another order are in other places: a permutation of the numbers that they take together leads
from those of the one order to those of the other. -/
theorem exists_renumbering {as as' : List (Addition ι Pattern)} (h : as.Perm as') (first : Nat) :
    ∃ σ : Equiv.Perm Nat, (∀ n, σ n ≠ n → first ≤ n ∧ n < first + total as) ∧
      (placeAll first as').Perm ((placeAll first as).map (renumber σ)) := by
  -- Along the permutation: behind the same first addition the rest is in order already, two neighbours
  -- change places as blocks of numbers, and one permutation of the numbers follows another.
  induction h generalizing first with
  | nil => exact ⟨.refl _, fun n hn => absurd rfl hn, .nil⟩
  | @cons a as as' h ih =>
    obtain ⟨σ, hσ, hperm⟩ := ih (first + a.width)
    have ha : renumber σ (a.place first) = a.place first :=
      renumber_place fun i hi => Classical.not_not.1 fun hn => by have := (hσ _ hn).1; omega
    refine ⟨σ, fun n hn => ?_, ?_⟩
    · have := hσ n hn
      rw [total]
      omega
    · rw [placeAll, placeAll, List.map_cons, ha]
      exact hperm.cons _
  | swap a b r =>
    refine ⟨swapBlocks first b.width a.width, fun n hn => ?_, ?_⟩
    · have := swapBlocks_ne hn
      simp only [total]
      omega
    · have hb : renumber (swapBlocks first b.width a.width) (b.place first) = b.place (first + a.width) :=
        renumber_place fun i hi => swapBlocks_of_lt hi
      have ha : renumber (swapBlocks first b.width a.width) (a.place (first + b.width)) = a.place first :=
        renumber_place fun i hi => swapBlocks_add hi
      have hr : (placeAll (first + b.width + a.width) r).map (renumber (swapBlocks first b.width a.width))
          = placeAll (first + b.width + a.width) r :=
        placeAll_renumber fun n hn => swapBlocks_of_le hn
      simp only [placeAll, List.map_cons, hb, ha, hr, Nat.add_right_comm first a.width]
      exact .swap _ _ _
  | @trans as as' as'' h h' ih ih' =>
    obtain ⟨σ, hσ, hperm⟩ := ih first
    obtain ⟨τ, hτ, hperm'⟩ := ih' first
    refine ⟨σ.trans τ, fun n hn => ?_, ?_⟩
    · by_cases hn' : σ n = n
      · rw [total_eq_of_perm h]
        exact hτ n (by simpa [hn'] using hn)
      · exact hσ n hn'
    · have hmoved := hperm.map (renumber τ)
      rw [List.map_map, funext (f := renumber τ ∘ renumber σ) renumber_renumber] at hmoved
      exact hperm'.trans hmoved

end Addition

/-! ## Runs -/

/-- Adds what is placed, each value under the name of its parameter. -/
def SelectQuery.withPlaced (q : SelectQuery) : Option Placed → SelectQuery
  | none => q
  | some p => { q with
      predicates := q.predicates ++ [p.predicate]
      bindings := q.bindings ++ p.values.map fun v => (paramName v.2, v.1)
      nextParam := q.nextParam + p.values.length }

variable {step : SelectQuery → ι → Outcome SelectQuery} {items items' : List ι} {q q' q₁ q₂ : SelectQuery}

/-- A run of steps, with what each step adds under the next parameters. -/
inductive Adds (step : SelectQuery → ι → Outcome SelectQuery) :
    SelectQuery → List (Addition ι Placed) → SelectQuery → Prop
  | nil (q : SelectQuery) : Adds step q [] q
  | cons {q q' : SelectQuery} {a : Addition ι Placed} {r : List (Addition ι Placed)}
      (hstep : step q a.1 = .ok (q.withPlaced a.2)) (hplaced : ∀ p ∈ a.2, p.At q.nextParam)
      (hr : Adds step (q.withPlaced a.2) r q') : Adds step q (a :: r) q'

/-- Two runs from one query in which each item adds the same, under parameters that are numbered anew: the
permutation moves none but the parameters of these runs. -/
def Reordered (step : SelectQuery → ι → Outcome SelectQuery) (q : SelectQuery) (items items' : List ι)
    (q₁ q₂ : SelectQuery) : Prop :=
  ∃ (added added' : List (Addition ι Placed)) (σ : Equiv.Perm Nat),
    added.map Prod.fst = items ∧ Adds step q added q₁ ∧ added'.map Prod.fst = items' ∧ Adds step q added' q₂ ∧
    added'.Perm (added.map (Addition.renumber σ)) ∧
    (∀ n, σ n ≠ n → q.nextParam ≤ n ∧ n < q₁.nextParam) ∧ q₂.nextParam = q₁.nextParam

theorem Pattern.place_at (first : Nat) (p : Pattern) : (p.place first).At first where
  numbers := by simp [place, List.zipIdx_map_snd]
  params := by
    rw [place, List.zipIdx_map_snd, List.range'_eq_map_range, Predicate.params_renumber, p.params_eq]

theorem numbered_eq (first : Nat) (vs : List Value) :
    SelectQuery.numbered first vs = (vs.zipIdx first).map fun v => (paramName v.2, v.1) := by
  induction vs generalizing first with
  | nil => rfl
  | cons v r ih => rw [SelectQuery.numbered, ih, List.zipIdx_cons, List.map_cons]

theorem adding_eq_withPlaced (q : SelectQuery) (p? : Option Pattern) :
    q.adding p? = q.withPlaced (p?.map (Pattern.place q.nextParam)) := by
  cases p? with
  | none => rfl
  | some p => simp [SelectQuery.adding, SelectQuery.withPredicate, SelectQuery.withPlaced, Pattern.place, numbered_eq]

theorem nextParam_adding (q : SelectQuery) (a : Addition ι Pattern) :
    (q.adding a.2).nextParam = q.nextParam + a.width := by
  obtain ⟨source, p?⟩ := a
  cases p? with
  | none => rfl
  | some p => rfl

/-- A step that succeeds on one query adds a pattern, or none, to every query. -/
theorem Uniform.exists_pattern {step : SelectQuery → Outcome SelectQuery} (h : Uniform .predicate step)
    (hq : step q = .ok q') : ∃ p? : Option Pattern, ∀ q, step q = .ok (q.adding p?) := by
  obtain ⟨d, hd, hchange⟩ := h.exists_change hq
  cases d with
  | restrict p? => exact ⟨p?, hchange⟩
  | _ => cases hd

/-- Each item with what it adds. -/
def labelled (got : ι → Option Pattern) (items : List ι) : List (Addition ι Pattern) :=
  items.map fun e => (e, got e)

/-- A run of steps that add patterns adds them in their places. -/
theorem adds_of_patterns {got : ι → Option Pattern}
    (hgot : ∀ e ∈ items, ∀ q, step q e = .ok (q.adding (got e))) (h : items.foldlM step q = .ok q') :
    Adds step q (Addition.placeAll q.nextParam (labelled got items)) q' ∧
      q'.nextParam = q.nextParam + Addition.total (labelled got items) := by
  induction items generalizing q with
  | nil =>
    cases h
    exact ⟨.nil _, rfl⟩
  | cons e r ih =>
    rw [List.forall_mem_cons] at hgot
    rw [List.foldlM_cons, hgot.1, ok_bind] at h
    obtain ⟨hr, hnext⟩ := ih hgot.2 h
    rw [nextParam_adding q (e, got e)] at hr hnext
    refine ⟨?_, ?_⟩
    · rw [adding_eq_withPlaced] at hr
      refine .cons ?_ (fun p hp => ?_) hr
      · exact (hgot.1 q).trans (congrArg Except.ok (adding_eq_withPlaced q (got e)))
      · obtain ⟨p, -, rfl⟩ := Option.map_eq_some_iff.1 hp
        exact p.place_at _
    · rw [hnext, Nat.add_assoc]
      rfl

/-- Steps that do nothing but add predicates may come in any order: all of them succeed in each order or in
none, and they add the same up to the numbers of the parameters. -/
theorem foldlM_reordered (hstep : ∀ e, Uniform .predicate (step · e)) (h : items.Perm items') (q : SelectQuery) :
    ((∃ q₁, items.foldlM step q = .ok q₁) ↔ ∃ q₂, items'.foldlM step q = .ok q₂) ∧
    ∀ q₁ q₂, items.foldlM step q = .ok q₁ → items'.foldlM step q = .ok q₂ → Reordered step q items items' q₁ q₂ := by
  refine ⟨?_, fun q₁ q₂ h₁ h₂ => ?_⟩
  · rw [exists_foldlM_iff hstep, exists_foldlM_iff hstep]
    exact forall_congr' fun e => by rw [h.mem_iff]
  · have hadds : ∀ e ∈ items, ∃ p? : Option Pattern, ∀ q, step q e = .ok (q.adding p?) := by
      intro e he
      obtain ⟨q₀, q', hq'⟩ := (exists_foldlM_iff hstep).1 ⟨q₁, h₁⟩ e he
      exact (hstep e).exists_pattern hq'
    -- What an item adds does not depend on the place in the run, so both runs add the same patterns.
    choose! got hgot using hadds
    obtain ⟨hadded, hnext⟩ := adds_of_patterns hgot h₁
    obtain ⟨hadded', hnext'⟩ := adds_of_patterns (fun e he => hgot e (h.mem_iff.2 he)) h₂
    have hperm : (labelled got items).Perm (labelled got items') := h.map _
    obtain ⟨σ, hσ, hrenumber⟩ := Addition.exists_renumbering hperm q.nextParam
    have hitems (es : List ι) : (Addition.placeAll q.nextParam (labelled got es)).map Prod.fst = es := by
      rw [Addition.placeAll_sources, labelled, List.map_map]
      exact List.map_id es
    refine ⟨_, _, σ, hitems items, hadded, hitems items', hadded', hrenumber, ?_, ?_⟩
    · rwa [hnext]
    · rw [hnext, hnext', Addition.total_eq_of_perm hperm]

end PagedSelect
