import ColliderML.Proofs.Counting.CutSearch
import ColliderML.Metric.Significance

/-!
# Which threshold a significance search selects

A search weighs a signal class against its backgrounds at every threshold and
reports the best. This module says what it reports.

* The events it counts are the scores of the chosen class, each with its label:
  label one is the signal, whichever class the search weighs.
* With two cross sections given, or none, the counts are never weighed
  themselves: taking the signal's entry out leaves one background, not the two
  ones that stand for no cross sections. The expected signal is the signal's
  factor `σ · L · w` times the true-positive rate, the expected background the
  backgrounds' factors times the false-positive rate.
* Past the default threshold, the result is the first largest weighed
  significance among the thresholds whose false-positive rate is not zero, and
  the selected rates and threshold are that threshold's.

The main result is `Metric.run_selects_most_significant_threshold`.
-/

namespace ColliderML

namespace Metric

open CutSearch

/-! ## The first largest value -/

abbrev DisplacesGt (a b : Float) : Prop := Displaces (fun a b => decide (a > b)) a b

theorem displacesGt_iff {a b : Float} : DisplacesGt a b ↔ b.isNaN = false ∧ (a.isNaN = true ∨ b < a) := by
  simp only [Displaces, gt_iff_lt, decide_eq_true_eq]

theorem displacesGt_trans (a b c : Float) (hab : DisplacesGt a b) (hbc : DisplacesGt b c) :
    DisplacesGt a c := by
  rw [displacesGt_iff] at *
  obtain ⟨hb, ha | hlt⟩ := hab
  · exact ⟨hbc.1, .inl ha⟩
  · obtain ⟨hc, hbn | hcb⟩ := hbc
    · rw [hb] at hbn
      cases hbn
    · exact ⟨hc, .inr (FloatOrder.lt_trans hcb hlt)⟩

theorem not_displacesGt_self (a : Float) : ¬ DisplacesGt a a := by
  rw [displacesGt_iff]
  rintro ⟨ha, hn | hlt⟩
  · rw [ha] at hn
    cases hn
  · exact FloatOrder.not_lt_self a hlt

theorem not_displacesGt_iff {a b : Float} :
    ¬ DisplacesGt a b ↔ (b.isNaN = false → a.isNaN = false ∧ ¬ b < a) := by
  rw [displacesGt_iff]
  cases a.isNaN <;> cases b.isNaN <;> simp

theorem argMax_map_spec {α : Type} (z : α → Float) {cs : List α} (hcs : cs ≠ []) :
    ∃ i, argMax (cs.map z) = .ok i ∧ ∃ h : i < cs.length, ∀ c ∈ cs, ¬ DisplacesGt (z c) (z cs[i]) := by
  obtain ⟨c, rest, rfl⟩ := List.exists_cons_of_ne_nil hcs
  obtain ⟨hlt, hbest⟩ := firstBy_spec displacesGt_trans not_displacesGt_self
    (show (c :: rest).map z ≠ [] by simp)
  refine ⟨firstLargest ((c :: rest).map z), rfl, by rw [← List.length_map z]; exact hlt, fun c' hc' => ?_⟩
  have h := hbest (z c') (List.mem_map_of_mem hc')
  rw [List.getElem_map] at h
  exact h

/-! ## Settings -/

theorem popAt_eq_ok {xs : List Datum} {i : Int} {d : Datum} {rest : List Datum}
    (h : popAt xs i = .ok (d, rest)) : ∃ j < xs.length, rest = xs.eraseIdx j := by
  simp only [popAt] at h
  generalize (if i < 0 then i + (xs.length : Int) else i) = j at h
  split at h
  · cases h
  · split at h
    · cases h
    · rename_i hbound
      simp only [Bool.or_eq_true, decide_eq_true_eq, not_or, not_le] at hbound
      simp only [Outcome.pure_eq_ok, Except.ok.injEq, Prod.mk.injEq] at h
      exact ⟨_, by omega, h.2.symm⟩

theorem takeOut_length {xs : List Datum} {at_ d : Datum} {rest : List Datum}
    (h : takeOut xs at_ = .ok (d, rest)) : rest.length + 1 = xs.length := by
  obtain ⟨i, -, hpop⟩ := Outcome.bind_eq_ok.1 h
  obtain ⟨j, hj, rfl⟩ := popAt_eq_ok hpop
  rw [List.length_eraseIdx_of_lt hj]
  omega

theorem splitSetting_pair {given classId d : Datum} {rest : List Datum}
    (hgiven : given = .none ∨ ∃ a b, given = .list [a, b])
    (h : splitSetting given classId = .ok (d, rest)) : rest.length = 1 := by
  rcases hgiven with rfl | ⟨a, b, rfl⟩ <;> simpa using takeOut_length h

theorem itemsEq_length {as bs : List Datum} (h : Datum.itemsEq as bs = true) :
    as.length = bs.length := by
  induction as generalizing bs with
  | nil =>
    cases bs with
    | nil => rfl
    | cons b bs => simp [Datum.itemsEq] at h
  | cons a as ih =>
    cases bs with
    | nil => simp [Datum.itemsEq] at h
    | cons b bs =>
      simp only [Datum.itemsEq, Bool.and_eq_true] at h
      simp [ih h.2]

theorem countsOnly_eq_false {s : SignificanceSearch} (h : s.backgroundCrossSections.length ≠ 2) :
    s.countsOnly = false := by
  rw [Bool.eq_false_iff]
  intro hc
  have hitems : Datum.itemsEq s.backgroundCrossSections [.int 1, .int 1] = true := by
    simpa [SignificanceSearch.countsOnly, Datum.pyEq] using hc
  exact h (itemsEq_length hitems)

theorem make_eq_ok {crossSections luminosity weights thresholds classId : Datum} {s : SignificanceSearch}
    (h : SignificanceSearch.make crossSections luminosity weights thresholds classId = .ok s) :
    splitSetting crossSections classId = .ok (s.signalCrossSection, s.backgroundCrossSections) ∧
      s.classId = classId ∧ (thresholds ≠ .none → s.thresholds = thresholds) := by
  obtain ⟨⟨sx, bx⟩, hx, h⟩ := Outcome.bind_eq_ok.1 h
  dsimp only at h
  obtain ⟨⟨sw, bw⟩, -, h⟩ := Outcome.bind_eq_ok.1 h
  dsimp only at h
  rw [Outcome.pure_eq_ok, Except.ok.injEq] at h
  subst h
  refine ⟨hx, rfl, fun hT => ?_⟩
  cases thresholds <;> simp_all

theorem thresholdValues_floats (ts raw : List Float) :
    thresholdValues (.list (ts.map .float)) raw = .ok ts := by
  simp [thresholdValues, Function.comp_def, Datum.float?]

theorem eq_singleton_of_isDefault {ts : List Float} (h : isDefault (.list (ts.map .float)) = true) :
    ∃ x, ts = [x] := by
  rcases ts with _ | ⟨x, _ | ⟨y, rest⟩⟩
  · simp [isDefault] at h
  · exact ⟨x, rfl⟩
  · simp [isDefault] at h

/-! ## The selected threshold -/

def countedEvents (truth : Tensor) (raw : List Float) : List (Bool × Float) :=
  (labelsOf truth).zip (raw.map countedScore)

def ratesAt (count : List (Bool × Float) → Float → Confusion) (events : List (Bool × Float))
    (t : Float) : Float × Float :=
  ratesOf (count events t)

def weighedSignificance (signal : Float) (backgrounds : List Float) (r : Float × Float) : Float :=
  significance (expected signal backgrounds r).1 (expected signal backgrounds r).2

/-- What a search reports when it selects threshold `t` of `ts`: `t` is kept
(or the thresholds are the default), the result is its weighed significance,
the rates and threshold are its own, and no kept threshold has a larger
significance, a NaN counting as largest. -/
structure Selects (count : List (Bool × Float) → Float → Confusion) (events : List (Bool × Float))
    (signal : Float) (backgrounds : List Float) (ts : List Float) (r : SignificanceResult) (t : Float) :
    Prop where
  mem : t ∈ ts
  kept : isDefault (.list (ts.map .float)) = true ∨ ((ratesAt count events t).2 != 0) = true
  result : r.result = .float (weighedSignificance signal backgrounds (ratesAt count events t))
  tpr : r.selectedTpr = .float (ratesAt count events t).1
  fpr : r.selectedFpr = .float (ratesAt count events t).2
  threshold : r.selectedThreshold = if ts.length = 1 then .list [.float t] else .float t
  largest : ∀ t' ∈ ts, ((ratesAt count events t').2 != 0) = true →
    (weighedSignificance signal backgrounds (ratesAt count events t)).isNaN = false →
      (weighedSignificance signal backgrounds (ratesAt count events t')).isNaN = false ∧
        ¬ weighedSignificance signal backgrounds (ratesAt count events t) <
          weighedSignificance signal backgrounds (ratesAt count events t')

theorem filter_zip_map (f : Float → Float × Float) (ts : List Float) :
    ((ts.map f).zip ts).filter (fun e => e.1.2 != 0) =
      (ts.filter (fun t => (f t).2 != 0)).map (fun t => (f t, t)) := by
  induction ts with
  | nil => rfl
  | cons t ts ih => by_cases h : ((f t).2 != 0) = true <;> simp [h, ih]

section Selection

variable (s : SignificanceSearch) (count : List (Bool × Float) → Float → Confusion)
  (events : List (Bool × Float)) {ts : List Float}
  {signal : Float} {backgrounds : List Float}
  (hthresholds : s.thresholds = .list (ts.map .float))
  (hsignal : yieldFactor s.signalCrossSection s.luminosity s.signalWeight = .ok signal)
  (hbackgrounds : (s.backgroundCrossSections.zip s.backgroundWeights).mapM
    (fun e => yieldFactor e.1 s.luminosity e.2) = .ok backgrounds)

include hthresholds hsignal hbackgrounds

theorem weighedResult_selects_default (hd : isDefault (.list (ts.map .float)) = true) :
    ∃ r t, s.weighedResult ts (ts.map (count events)) = .ok r ∧
      Selects count events signal backgrounds ts r t := by
  obtain ⟨x, rfl⟩ := eq_singleton_of_isDefault hd
  refine ⟨s.atDefault (ratesAt count events x) (weighedSignificance signal backgrounds (ratesAt count events x)), x,
    ?_, ?_⟩
  · simp only [SignificanceSearch.weighedResult, hsignal, hbackgrounds, Outcome.ok_bind, hthresholds, hd,
      if_true]
    rfl
  · exact {
      mem := List.mem_singleton_self x
      kept := .inl hd
      result := rfl
      tpr := rfl
      fpr := rfl
      threshold := by simp [SignificanceSearch.atDefault, hthresholds]
      largest := fun t' ht' _ hnan => by
        rw [List.mem_singleton] at ht'
        subst ht'
        exact not_displacesGt_iff.1 (not_displacesGt_self _) hnan }

theorem weighedResult_selects_kept (hd : ¬ isDefault (.list (ts.map .float)) = true)
    (hkept : ∃ t ∈ ts, ((ratesAt count events t).2 != 0) = true) :
    ∃ r t, s.weighedResult ts (ts.map (count events)) = .ok r ∧
      Selects count events signal backgrounds ts r t := by
  obtain ⟨t0, ht0, hk0⟩ := hkept
  have hcs : ts.filter (fun t => (ratesAt count events t).2 != 0) ≠ [] :=
    List.ne_nil_of_mem (List.mem_filter.2 ⟨ht0, hk0⟩)
  obtain ⟨i, hi, hlt, hbest⟩ :=
    argMax_map_spec (fun t => weighedSignificance signal backgrounds (ratesAt count events t)) hcs
  simp only [SignificanceSearch.weighedResult, hsignal, hbackgrounds, Outcome.ok_bind, hthresholds, hd,
    Bool.false_eq_true, if_false, List.map_map]
  have hrates : ratesOf ∘ count events = ratesAt count events := rfl
  have hz : (fun e : (Float × Float) × Float =>
      significance (expected signal backgrounds e.1).1 (expected signal backgrounds e.1).2) ∘
        (fun t => (ratesAt count events t, t)) = fun t => weighedSignificance signal backgrounds (ratesAt count events t) :=
    rfl
  rw [hrates, filter_zip_map, List.map_map, hz, hi]
  set cs := ts.filter (fun t => (ratesAt count events t).2 != 0)
  have hchosen : (cs.map (fun t => (ratesAt count events t, t))).getD i ((0, 0), 0) = (ratesAt count events cs[i], cs[i]) := by
    simp [hlt]
  have hmem : cs[i] ∈ ts ∧ ((ratesAt count events cs[i]).2 != 0) = true := List.mem_filter.1 (List.getElem_mem hlt)
  refine ⟨_, cs[i], rfl, ?_⟩
  simp only [hchosen]
  exact {
    mem := hmem.1
    kept := .inr hmem.2
    result := by simp [hlt]
    tpr := rfl
    fpr := rfl
    threshold := by
      generalize cs[i] = t
      rcases ts with _ | ⟨x, _ | ⟨y, rest⟩⟩ <;> simp
    largest := fun t' ht' hk' hnan => not_displacesGt_iff.1 (hbest t' (List.mem_filter.2 ⟨ht', hk'⟩)) hnan }

theorem weighedResult_selects
    (hkept : isDefault s.thresholds = true ∨ ∃ t ∈ ts, ((ratesAt count events t).2 != 0) = true) :
    ∃ r t, s.weighedResult ts (ts.map (count events)) = .ok r ∧
      Selects count events signal backgrounds ts r t := by
  rw [hthresholds] at hkept
  by_cases hd : isDefault (.list (ts.map .float)) = true
  · exact weighedResult_selects_default s count events hthresholds hsignal hbackgrounds hd
  · exact weighedResult_selects_kept s count events hthresholds hsignal hbackgrounds hd (hkept.resolve_left hd)

end Selection

/-- A search made with two cross sections or none, and thresholds given as
numbers, selects a threshold, whatever rule makes its confusion counts: one
whose false-positive rate is not zero (unless the thresholds are the default one
half), with the largest significance of the expected yields, the signal's factor
times the true-positive rate over the root of that plus the backgrounds' factors
times the false-positive rate. The signal events are those of label one, with
the scores of the search's class. -/
theorem run_selects_most_significant_threshold (crossSections luminosity weights classId : Datum)
    (ts : List Float) (s : SignificanceSearch) (count : List (Bool × Float) → Float → Confusion)
    (truth scores : Tensor) (raw : List Float)
    (signal : Float) (backgrounds : List Float)
    (hxs : crossSections = .none ∨ ∃ a b, crossSections = .list [a, b])
    (hs : SignificanceSearch.make crossSections luminosity weights (.list (ts.map .float)) classId = .ok s)
    (hraw : scoresOf scores classId = .ok raw)
    (hsignal : yieldFactor s.signalCrossSection s.luminosity s.signalWeight = .ok signal)
    (hbackgrounds : (s.backgroundCrossSections.zip s.backgroundWeights).mapM
      (fun e => yieldFactor e.1 s.luminosity e.2) = .ok backgrounds)
    (hkept : isDefault (.list (ts.map .float)) = true ∨
      ∃ t ∈ ts, ((ratesAt count (countedEvents truth raw) t).2 != 0) = true) :
    ∃ r t, s.run count truth scores = .ok r ∧
      Selects count (countedEvents truth raw) signal backgrounds ts r t := by
  obtain ⟨hsplit, hclass, hT⟩ := make_eq_ok hs
  have hthresholds : s.thresholds = .list (ts.map .float) := hT (by simp)
  have hweighed : s.countsOnly = false := by
    apply countsOnly_eq_false
    rw [splitSetting_pair hxs hsplit]
    decide
  obtain ⟨r, t, hr, hsel⟩ := weighedResult_selects s count (countedEvents truth raw) hthresholds hsignal hbackgrounds
    (by rwa [hthresholds])
  refine ⟨r, t, ?_, hsel⟩
  simp only [SignificanceSearch.run, hclass, hraw, hthresholds, thresholdValues_floats, Outcome.ok_bind, hweighed,
    Bool.false_eq_true, if_false]
  exact hr

def twoSignalsOfThree : Tensor := Tensor.ofList .float32 [.real 1, .real 1, .real 0]

def signalScores : Tensor := Tensor.ofList .float32 [.real 0.9, .real 0.9, .real 0.1]

def defaultSearch : SignificanceSearch :=
  { luminosity := .float 1.0, signalCrossSection := .int 1, backgroundCrossSections := [.int 1],
    signalWeight := .int 1, backgroundWeights := [.int 1], classId := .int 1,
    thresholds := .list [.float 0.5] }

theorem run_selects_most_significant_threshold_defaults :
    ∃ r t, defaultSearch.run confusionAt twoSignalsOfThree signalScores = .ok r ∧
      Selects confusionAt (countedEvents twoSignalsOfThree (signalScores.toList.map Scalar.toFloat)) 1 [1]
        [0.5] r t :=
  run_selects_most_significant_threshold .none .none .none (.int 1) [0.5] defaultSearch confusionAt
    twoSignalsOfThree signalScores _ 1 [1] (.inl rfl) rfl rfl rfl rfl (.inl rfl)

/-- With every setting at its default the search weighs the rates and not the
counts: two selected signal events and no background give 1, not the `2 / √2`
of the counts. -/
theorem default_search_weighs_rates :
    ((SignificanceSearch.make .none .none .none .none (.int 1)).bind
      (·.run confusionAt twoSignalsOfThree signalScores)).toOption.map
        (fun r => (r.result.float?.getD 0 == 1, r.result.float?.getD 0 == significance 2 0)) =
      some (true, false) := by
  decide +kernel

end Metric

end ColliderML
