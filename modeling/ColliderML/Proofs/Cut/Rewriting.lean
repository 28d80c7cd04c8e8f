import Mathlib
import ColliderML.Cut.Read
import ColliderML.Observable.Alias
import ColliderML.Proofs.Outcome

/-!
# Reading a cut: the rewritten expression

Reading a cut evaluates each single cut and then the expression with every
single cut replaced, in order, by the lookup of its result. Which text is
replaced depends on the single cuts' texts alone, so the expression evaluated
last is fixed by the cut, whatever the events (`Cut.rewritten`); when it does
not parse, no events make the cut readable (`Cut.read_error_of_unparsable`).

The replacement finds a single cut between word boundaries, and a decimal
point is one: a cut that is the start of the next, up to its decimal point,
is also replaced inside it (`Cut.read_fails_when_cut_prefixes_next`).
-/

namespace ColliderML

theorem map_fst_assocSet {α : Type} (xs : List (String × α)) (k : String) (v : α) :
    (assocSet xs k v).map Prod.fst = if k ∈ xs.map Prod.fst then xs.map Prod.fst else xs.map Prod.fst ++ [k] := by
  unfold assocSet
  by_cases h : k ∈ xs.map Prod.fst
  · have hany : xs.any (fun e => e.1 == k) = true := by
      obtain ⟨e, he, rfl⟩ := List.mem_map.mp h
      exact List.any_eq_true.mpr ⟨e, he, by simp⟩
    rw [if_pos hany, if_pos h, List.map_map]
    congr 1
    funext e
    by_cases hk : e.1 = k <;> simp [hk]
  · have hany : xs.any (fun e => e.1 == k) = false := by
      simpa using fun e he hk => h (List.mem_map.mpr ⟨e, he, hk⟩)
    simp [hany, h]

namespace Cut

theorem evaluateCuts_keys {obs : List (String × ScopeObservable)} :
    ∀ {cuts : List (String × List String)} {acc r : List (String × FormulaValue)},
      (acc.map Prod.fst ++ cuts.map Prod.fst).Nodup → evaluateCuts obs cuts acc = .ok r →
        r.map Prod.fst = acc.map Prod.fst ++ cuts.map Prod.fst
  | [], acc, r, _, h => by
    simp only [evaluateCuts, Except.ok.injEq] at h
    simp [h]
  | (cut, names) :: rest, acc, r, hnd, h => by
    simp only [evaluateCuts] at h
    obtain ⟨v, -, hrest⟩ := Outcome.bind_eq_ok.mp h
    have hnew : cut ∉ acc.map Prod.fst := by
      intro hc
      exact (List.nodup_append.mp hnd).2.2 cut hc cut (by simp) rfl
    have hkeys : (assocSet acc cut v).map Prod.fst = acc.map Prod.fst ++ [cut] := by
      rw [map_fst_assocSet, if_neg hnew]
    rw [evaluateCuts_keys (by rw [hkeys]; simpa using hnd) hrest, hkeys]
    simp

/-- The expression a cut's reading evaluates last: each single cut, in order,
replaced by the lookup of its result. It depends on the cut alone, not on the events. -/
def rewritten (c : Cut) : String := (c.cuts.map Prod.fst).foldl substituteCut c.expr

theorem read_error_of_unparsable {c : Cut} (hnd : (c.cuts.map Prod.fst).Nodup) {e : Error}
    (hparse : Formula.parse c.rewritten = .error e) (ev : Events) : ∃ e', read ev c = .error e' := by
  unfold read
  cases hobs : readObservables ev c with
  | error e' => exact ⟨e', rfl⟩
  | ok obs =>
    cases hres : evaluateCuts obs c.cuts [] with
    | error e' => exact ⟨e', by simp [hres]⟩
    | ok results =>
      have hkeys : results.map Prod.fst = c.cuts.map Prod.fst := by
        simpa using evaluateCuts_keys (by simpa using hnd) hres
      -- the substitutions see only the results' keys, which are the single cuts
      have hexpr : results.foldl (fun e r => substituteCut e r.1) c.expr = c.rewritten := by
        rw [rewritten, ← hkeys, List.foldl_map]
      have heval : ∀ scope : FormulaScope, scope.evaluate c.rewritten = .error e := by
        intro scope
        rw [FormulaScope.evaluate, hparse]
        rfl
      simp only [hres, Outcome.ok_bind, hexpr, heval]
      split <;> exact ⟨_, rfl⟩

/-- A cut whose first single cut is the start of the second, up to a decimal
point, is read without error and names one observable, yet no events make it
readable: the first cut's lookup also replaces the start of the second, and
what is left does not parse. -/
theorem read_fails_when_cut_prefixes_next (ev : Events) :
    ∃ c, parse AliasTable.shipped "Jet0.Pt > 5 and Jet0.Pt > 5.5" = .ok c ∧
      c.observables.map Prod.fst = ["Jet0.Pt"] ∧ ∃ e, read ev c = .error e := by
  obtain ⟨c, hc⟩ := Outcome.exists_eq_ok_of_isOk
    (show (parse AliasTable.shipped "Jet0.Pt > 5 and Jet0.Pt > 5.5").isOk = true by decide +kernel)
  have hview : (parse AliasTable.shipped "Jet0.Pt > 5 and Jet0.Pt > 5.5").toOption.map
      (fun c => (c.expr, c.cuts.map Prod.fst, c.observables.map Prod.fst)) =
        some ("Jet0.Pt > 5 & Jet0.Pt > 5.5", ["Jet0.Pt > 5", "Jet0.Pt > 5.5"], ["Jet0.Pt"]) := by
    decide +kernel
  simp only [hc, Except.toOption, Option.map_some, Option.some.injEq, Prod.mk.injEq] at hview
  obtain ⟨hexpr, hcuts, hobs⟩ := hview
  -- the first cut is also found at the start of the second, before its decimal point
  have hrewritten : c.rewritten = "cuts_results['Jet0.Pt > 5'] & cuts_results['Jet0.Pt > 5'].5" := by
    rw [rewritten, hexpr, hcuts]
    decide +kernel
  have hsyntax : (Formula.parse c.rewritten).isOk = false := by
    rw [hrewritten]
    decide +kernel
  cases hp : Formula.parse c.rewritten with
  | ok f => rw [hp] at hsyntax; cases hsyntax
  | error e => exact ⟨c, hc, hobs, read_error_of_unparsable (by rw [hcuts]; decide) hp ev⟩

end Cut

end ColliderML
