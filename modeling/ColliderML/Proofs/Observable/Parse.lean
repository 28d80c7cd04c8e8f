import ColliderML.Proofs.Observable.Construct

/-!
# Reading observable names

An observable name is an object name and a class name around the last dot.
Under an alias table the class name selects a kind (an entry of the table, or a
τ name with one or two digits), the object name is read, and the kind's build
runs on the object name, the class name and the keyword arguments.  Under the
shipped table every kind selected has its own supported kinds, so a read
observable is the record of the object read, which the kind admits.

When the keyword arguments give the integer counts an alias leaves open (none
for a τ name, which spells its counts with its last digits), reading is
exactly: select the kind, read the counts, create the observable from the
object name and the class name.
-/

namespace ColliderML

namespace Observable

open Text PhysicsObject

/-! ## Splitting a name at its last dot -/

theorem splitOn_dot_ne_nil (s : String) : splitOn s "." ≠ [] := by
  rw [splitOn_eq (d := '.') rfl]
  simpa using splitList_ne_nil '.' s.toList []

theorem dot_not_mem_of_mem_splitOn {s piece : String} (h : piece ∈ splitOn s ".") :
    '.' ∉ piece.toList := by
  rw [splitOn_eq (d := '.') rfl, List.mem_map] at h
  obtain ⟨l, hl, rfl⟩ := h
  simpa using not_mem_of_mem_splitList (by simp) hl

theorem dot_not_mem_className (s : String) : '.' ∉ (splitName s).2.toList := by
  have hne := splitOn_dot_ne_nil s
  unfold splitName
  split
  · next cn parts _ heq =>
      have hmem : cn ∈ (splitOn s ".").reverse := by simp [heq]
      exact dot_not_mem_of_mem_splitOn (List.mem_reverse.mp hmem)
  · next cn heq =>
      have hmem : cn ∈ (splitOn s ".").reverse := by simp [heq]
      exact dot_not_mem_of_mem_splitOn (List.mem_reverse.mp hmem)
  · next heq => exact absurd (List.reverse_eq_nil_iff.mp heq) hne

theorem splitName_append {pre cn : String} (hcn : '.' ∉ cn.toList) :
    splitName (pre ++ "." ++ cn) = (some pre, cn) := by
  have hsplit : splitOn (pre ++ "." ++ cn) "." = splitOn pre "." ++ [cn] := by
    have hdot : ("." : String).toList = ['.'] := rfl
    rw [splitOn_eq (d := '.') rfl, splitOn_eq (d := '.') rfl, String.toList_append,
      String.toList_append, hdot, List.append_assoc, List.singleton_append,
      splitList_append_sep, splitList_of_not_mem hcn]
    simp
  obtain ⟨x, xs, hx⟩ := List.exists_cons_of_ne_nil
    (List.reverse_ne_nil_iff.mpr (splitOn_dot_ne_nil pre))
  unfold splitName
  rw [hsplit, List.reverse_append, hx]
  simp only [List.reverse_singleton, List.singleton_append]
  rw [← hx, List.reverse_reverse, intercalate_splitOn (d := '.') rfl]

/-! ## Choosing the kind -/

/-- The kind a class name selects under a table: an entry of the table, else a
τ name with one or two digits. -/
def classKind (table : AliasTable) (cn : String) : Option ObservableKind :=
  match table.find? cn with
  | some k => some k
  | none =>
    if isTauName cn 1 then some .tauN
    else if isTauName cn 2 then some .tauMN
    else none

/-- The keyword arguments a name is read with: those given, the class name
replaced by the one of the name. -/
def nameKwargs (cn : String) (kw : List (String × ObjectArg)) : List (String × ObjectArg) :=
  kw.filter (fun kv => kv.1 != "class_name") ++ [("class_name", .value (.str cn))]

theorem classKind_of_find? {table : AliasTable} {cn : String} {kind : ObservableKind}
    (h : table.find? cn = some kind) : classKind table cn = some kind := by
  simp [classKind, h]

theorem ne_None_of_parse {table : AliasTable} {s : String} {kw : List (String × ObjectArg)}
    {x : Outcome (Option Observable)} (h : parse table s kw = x) (hx : x ≠ .ok none) :
    s ≠ "None" := by
  rintro rfl
  exact hx (h.symm.trans (if_pos rfl))

theorem parse_eq {table : AliasTable} {name : String} {kw : List (String × ObjectArg)}
    (h : name ≠ "None") :
    parse table name kw =
      match classKind table (splitName name).2 with
      | some k => (ofNameAs k name (nameKwargs (splitName name).2 kw)).map some
      | none => .error (.invalidObservable name) := by
  rw [parse, if_neg h]
  unfold classKind nameKwargs
  dsimp only
  cases table.find? (splitName name).2 with
  | some k => rfl
  | none =>
      -- a class name outside the table is tried as a τ name of one digit, then of two
      dsimp only
      by_cases h₁ : isTauName (splitName name).2 1 = true
      · rw [if_pos h₁, if_pos h₁]
      · rw [if_neg h₁, if_neg h₁]
        by_cases h₂ : isTauName (splitName name).2 2 = true
        · rw [if_pos h₂, if_pos h₂]
        · rw [if_neg h₂, if_neg h₂]

/-! ## What a read observable is -/

def prefixArg : Option String → ObjectArg
  | some s => .value (.str s)
  | none => .value .none

theorem eq_some_of_objectOfArg_prefixArg {po : Option String} {p : PhysicsObject}
    (h : objectOfArg (prefixArg po) = .ok (some p)) : ∃ s, po = some s ∧ ofName s = .ok p := by
  cases po with
  | none => cases h
  | some s =>
      obtain ⟨q, hq, hqp⟩ := Outcome.map_eq_ok.mp h
      cases hqp
      exact ⟨s, rfl, hq⟩

theorem lookup_nameKwargs (cn : String) (kw : List (String × ObjectArg)) :
    (nameKwargs cn kw).lookup "class_name" = some (.value (.str cn)) := by
  have hnone : (kw.filter fun kv => kv.1 != "class_name").lookup "class_name" = none :=
    List.lookup_eq_none_iff.mpr fun kv hkv => by
      have := (List.mem_filter.mp hkv).2
      simpa [bne_comm] using this
  simp [nameKwargs, List.lookup_append, hnone]

theorem ofNameAs_eq_ok {kind : ObservableKind} {s : String} {kw : List (String × ObjectArg)}
    {o : Observable} (h : ofNameAs kind s (nameKwargs (splitName s).2 kw) = .ok o) :
    ∃ args, construct kind args = .ok o ∧
      args.lookup "physics_object" = some (prefixArg (splitName s).1) ∧
      args.lookup "class_name" = some (.value (.str (splitName s).2)) := by
  have hcn := lookup_nameKwargs (splitName s).2 kw
  revert h hcn
  generalize nameKwargs (splitName s).2 kw = kw'
  unfold ofNameAs
  rcases splitName s with ⟨po, cn⟩
  intro h hcn
  -- the object argument is written out by cases on the object part
  cases po
  all_goals
    dsimp only at h hcn ⊢
    cases kind <;> dsimp only at h
    case angularDistance => exact ⟨_, h, by simp [List.lookup, prefixArg], by simp [List.lookup]⟩
    case tauN =>
      split at h
      · -- the count is a keyword argument or read from the digits
        split at h
        · simp only [Outcome.pure_eq_ok, Outcome.ok_bind] at h
          exact ⟨_, h, by simp [List.lookup, prefixArg], by simp [List.lookup]⟩
        · obtain ⟨v, -, h⟩ := Outcome.bind_eq_ok.mp h
          simp only [Outcome.pure_eq_ok, Outcome.ok_bind] at h
          exact ⟨_, h, by simp [List.lookup, prefixArg], by simp [List.lookup]⟩
      · cases h
    case tauMN =>
      split at h
      · -- each count is a keyword argument or read from the digits
        split at h
        · simp only [Outcome.pure_eq_ok, Outcome.ok_bind] at h
          split at h
          · exact ⟨_, h, by simp [List.lookup, prefixArg], by simp [List.lookup]⟩
          · obtain ⟨w, -, h⟩ := Outcome.bind_eq_ok.mp h
            exact ⟨_, h, by simp [List.lookup, prefixArg], by simp [List.lookup]⟩
        · obtain ⟨v, -, h⟩ := Outcome.bind_eq_ok.mp h
          simp only [Outcome.pure_eq_ok, Outcome.ok_bind] at h
          split at h
          · exact ⟨_, h, by simp [List.lookup, prefixArg], by simp [List.lookup]⟩
          · obtain ⟨w, -, h⟩ := Outcome.bind_eq_ok.mp h
            exact ⟨_, h, by simp [List.lookup, prefixArg], by simp [List.lookup]⟩
      · cases h
    -- every other kind builds from the object, the class name and the other arguments
    all_goals
      split at h
      · cases h
      · exact ⟨_, h, by simp [prefixArg], by simp [List.lookup, hcn]⟩

/-! ## The kinds the shipped table selects -/

theorem mem_entries_of_find? {table : AliasTable} {cn : String} {kind : ObservableKind}
    (h : table.find? cn = some kind) : (cn, kind) ∈ table.entries := by
  obtain ⟨l₁, l₂, hl, -⟩ := List.lookup_eq_some_iff.mp h
  simp [hl]

theorem tau_of_classKind {table : AliasTable} {cn : String} {kind : ObservableKind}
    (hfind : table.find? cn = none) (h : classKind table cn = some kind) :
    (kind = .tauN ∧ isTauName cn 1 = true) ∨ (kind = .tauMN ∧ isTauName cn 2 = true) := by
  unfold classKind at h
  rw [hfind] at h
  dsimp only at h
  by_cases h₁ : isTauName cn 1 = true
  · rw [if_pos h₁] at h
    cases h
    exact .inl ⟨rfl, h₁⟩
  · rw [if_neg h₁] at h
    by_cases h₂ : isTauName cn 2 = true
    · rw [if_pos h₂] at h
      cases h
      exact .inr ⟨rfl, h₂⟩
    · rw [if_neg h₂] at h
      cases h

theorem shipped_kinds_ne_generic : ∀ e ∈ AliasTable.shipped.entries, e.2 ≠ .generic := by
  decide +kernel

theorem ne_generic_of_classKind {cn : String} {kind : ObservableKind}
    (h : classKind AliasTable.shipped cn = some kind) : kind ≠ .generic := by
  cases hfind : AliasTable.shipped.find? cn with
  | some k =>
      rw [classKind_of_find? hfind] at h
      cases h
      exact shipped_kinds_ne_generic (cn, _) (mem_entries_of_find? hfind)
  | none =>
      rcases tau_of_classKind hfind h with ⟨rfl, -⟩ | ⟨rfl, -⟩ <;> decide

theorem exists_supported_of_ne_generic {kind : ObservableKind} (h : kind ≠ .generic) :
    ∃ ks, kind.supported = some ks := by
  cases kind <;> first | exact absurd rfl h | exact ⟨_, rfl⟩

theorem classKind_shipped_empty : classKind AliasTable.shipped "" = none := by
  decide +kernel

/-! ## What a read observable is -/

theorem parse_shipped_eq_ok {s : String} {kw : List (String × ObjectArg)} {o : Observable}
    (h : parse AliasTable.shipped s kw = .ok (some o)) :
    ∃ kind ks po cn p counts, splitName s = (some po, cn) ∧
      classKind AliasTable.shipped cn = some kind ∧ kind.supported = some ks ∧
      ofName po = .ok p ∧ Admits kind ks p ∧ counts.params = kind.subjetParams ∧
      ofNameAs kind s (nameKwargs cn kw) = .ok o ∧ o = created kind ks p (.str cn) counts := by
  rw [parse_eq (ne_None_of_parse h nofun)] at h
  split at h
  · next kind hkind =>
      obtain ⟨o', hbuild, hsome⟩ := Outcome.map_eq_ok.mp h
      cases hsome
      obtain ⟨ks, hks⟩ := exists_supported_of_ne_generic (ne_generic_of_classKind hkind)
      obtain ⟨args, hcons, hpo, hcn⟩ := ofNameAs_eq_ok hbuild
      obtain ⟨counts, hcounts, hcreate⟩ := construct_eq_ok hcons hcn
      rw [hpo, Option.getD_some] at hcreate
      obtain ⟨p, hp, hadmits, rfl⟩ := (create_eq_ok_iff hks).mp hcreate
      obtain ⟨po, hpo', hread⟩ := eq_some_of_objectOfArg_prefixArg hp
      exact ⟨kind, ks, po, _, p, counts, Prod.ext hpo' rfl, hkind, hks, hread, hadmits,
        countsOf_params hcounts, hbuild, rfl⟩
  · cases h

/-! ## Reading with the counts given -/

/-- The counts a class name takes from keyword arguments: those of the kind it is
an alias of; none for a τ name, which spells its counts. -/
def kwargParams (table : AliasTable) (cn : String) : SubjetParams :=
  match table.find? cn with
  | some kind => kind.subjetParams
  | none => .none

def digitCounts (kind : ObservableKind) (cn : String) : Outcome SubjetCounts :=
  match kind with
  | .tauN => do
    let n ← digitOf (fromEnd cn 1)
    pure (.one (.int n))
  | .tauMN => do
    let m ← digitOf (fromEnd cn 2)
    let n ← digitOf (fromEnd cn 1)
    pure (.two (.int m) (.int n))
  | _ => pure .none

/-- The counts an observable read by a class name gets: the integers given to an
alias, the digits of a τ name. -/
def nameCounts (table : AliasTable) (kind : ObservableKind) (cn : String) (m n : Int) :
    Outcome SubjetCounts :=
  match table.find? cn with
  | some _ => .ok (givenCounts kind.subjetParams m n)
  | none => digitCounts kind cn

theorem lookup_countKwargs {ps : SubjetParams} {m n : Int} {k : String} (hm : k ≠ "m")
    (hn : k ≠ "n") : (countKwargs ps m n).lookup k = none := by
  have hm' : (k == "m") = false := by simpa using hm
  have hn' : (k == "n") = false := by simpa using hn
  cases ps <;> simp [countKwargs, List.lookup, hm', hn']

theorem construct_counted {kind : ObservableKind} (hgen : kind ≠ .generic) (a : ObjectArg)
    (d : Datum) (m n : Int) :
    construct kind ([("physics_object", a), ("class_name", .value d)] ++
      countKwargs kind.subjetParams m n) =
      create kind a d (.value .none) (givenCounts kind.subjetParams m n) := by
  have hpar := parameters_of_ne_generic hgen
  rw [construct_of_params, countsOf_given (m := m) (n := n)]
  · simp [List.lookup, lookup_countKwargs, classNameOf]
  all_goals cases hps : kind.subjetParams <;> simp_all [countKwargs, List.lookup]

theorem construct_tauN (a : ObjectArg) (d : Datum) (n : Int) :
    construct .tauN [("n", .value (.int n)), ("physics_object", a), ("class_name", .value d)] =
      create .tauN a d (.value .none) (.one (.int n)) := by
  rw [construct_of_params, countsOf_given (m := 0) (n := n)]
  · simp [List.lookup, classNameOf, givenCounts, ObservableKind.subjetParams]
  all_goals simp [List.lookup, ObservableKind.parameters, ObservableKind.subjetParams]

theorem construct_tauMN (a : ObjectArg) (d : Datum) (m n : Int) :
    construct .tauMN [("m", .value (.int m)), ("n", .value (.int n)), ("physics_object", a),
      ("class_name", .value d)] =
      create .tauMN a d (.value .none) (.two (.int m) (.int n)) := by
  rw [construct_of_params, countsOf_given (m := m) (n := n)]
  · simp [List.lookup, classNameOf, givenCounts, ObservableKind.subjetParams]
  all_goals simp [List.lookup, ObservableKind.parameters, ObservableKind.subjetParams]

theorem shipped_tau_aliases : ∀ e ∈ AliasTable.shipped.entries,
    (e.2 = .tauN ∨ e.2 = .tauMN) → startsWithTau e.1 = true := by
  decide +kernel

theorem startsWithTau_of_find? {cn : String} {kind : ObservableKind}
    (h : AliasTable.shipped.find? cn = some kind) (htau : kind = .tauN ∨ kind = .tauMN) :
    startsWithTau cn = true :=
  shipped_tau_aliases (cn, kind) (mem_entries_of_find? h) htau

theorem startsWithTau_of_isTauName {cn : String} {k : Nat} (h : isTauName cn k = true) :
    startsWithTau cn = true := by
  unfold isTauName at h
  unfold startsWithTau Text.startsWith
  split at h
  · next rest heq =>
      rw [heq]
      rfl
  · cases h

theorem filter_nameKwargs_countKwargs (cn : String) (ps : SubjetParams) (m n : Int) :
    (nameKwargs cn (countKwargs ps m n)).filter (fun kv => kv.1 != "class_name") =
      countKwargs ps m n := by
  cases ps <;> simp [nameKwargs, countKwargs]

theorem find?_countKwargs (ps : SubjetParams) (m n : Int) :
    (countKwargs ps m n).find? (fun kv => kv.1 == "physics_object") = none := by
  cases ps <;> simp [countKwargs]

theorem ofNameAs_alias {s cn : String} {po : Option String} {kind : ObservableKind} {m n : Int}
    (hsplit : splitName s = (po, cn)) (hfind : AliasTable.shipped.find? cn = some kind) :
    ofNameAs kind s (nameKwargs cn (countKwargs kind.subjetParams m n)) =
      create kind (prefixArg po) (.str cn) (.value .none) (givenCounts kind.subjetParams m n) := by
  have hgen : kind ≠ .generic := ne_generic_of_classKind (classKind_of_find? hfind)
  have hrest := filter_nameKwargs_countKwargs cn kind.subjetParams m n
  have hfind' := find?_countKwargs kind.subjetParams m n
  unfold ofNameAs
  rw [hsplit]
  -- the object argument is written out by cases on the object part
  cases po
  all_goals
    dsimp only
    cases kind <;> dsimp only
    case generic => exact absurd rfl hgen
    case angularDistance => exact construct_counted hgen _ _ m n
    case tauN =>
      have hn : (nameKwargs cn (countKwargs ObservableKind.tauN.subjetParams m n)).lookup "n" =
          some (.value (.int n)) := by
        simp [nameKwargs, countKwargs, ObservableKind.subjetParams]
      rw [if_pos (startsWithTau_of_find? hfind (.inl rfl)), hn]
      dsimp only
      simp only [Outcome.pure_eq_ok, Outcome.ok_bind]
      exact construct_tauN _ _ n
    case tauMN =>
      have hm : (nameKwargs cn (countKwargs ObservableKind.tauMN.subjetParams m n)).lookup "m" =
          some (.value (.int m)) := by
        simp [nameKwargs, countKwargs, ObservableKind.subjetParams]
      have hn : (nameKwargs cn (countKwargs ObservableKind.tauMN.subjetParams m n)).lookup "n" =
          some (.value (.int n)) := by
        simp [nameKwargs, countKwargs, List.lookup, ObservableKind.subjetParams]
      rw [if_pos (startsWithTau_of_find? hfind (.inr rfl)), hm, hn]
      dsimp only
      simp only [Outcome.pure_eq_ok, Outcome.ok_bind]
      exact construct_tauMN _ _ m n
    -- every other kind passes the counts on after the object and the class name
    all_goals
      simp only [lookup_nameKwargs, Option.getD_some, hrest, hfind']
      exact construct_counted hgen _ _ m n

theorem lookup_nameKwargs_nil {cn k : String} (h : k ≠ "class_name") :
    (nameKwargs cn []).lookup k = none := by
  have hk : (k == "class_name") = false := by simpa using h
  simp [nameKwargs, List.lookup, hk]

theorem ofNameAs_tauDigits {s cn : String} {po : Option String} {kind : ObservableKind}
    (hsplit : splitName s = (po, cn)) (htau : startsWithTau cn = true)
    (hkind : kind = .tauN ∨ kind = .tauMN) :
    ofNameAs kind s (nameKwargs cn []) =
      digitCounts kind cn >>= create kind (prefixArg po) (.str cn) (.value .none) := by
  unfold ofNameAs
  rw [hsplit]
  cases po
  all_goals
    dsimp only
    rcases hkind with rfl | rfl <;> dsimp only
    · rw [if_pos htau, lookup_nameKwargs_nil (by decide)]
      simp only [digitCounts, Outcome.pure_eq_ok]
      cases digitOf (fromEnd cn 1) with
      | error e => rfl
      | ok v =>
          simp only [Outcome.ok_bind]
          exact construct_tauN _ _ v
    · rw [if_pos htau, lookup_nameKwargs_nil (by decide), lookup_nameKwargs_nil (by decide)]
      simp only [digitCounts, Outcome.pure_eq_ok]
      cases digitOf (fromEnd cn 2) with
      | error e => rfl
      | ok u =>
          cases digitOf (fromEnd cn 1) with
          | error e => rfl
          | ok v =>
              simp only [Outcome.ok_bind]
              exact construct_tauMN _ _ u v

/-- Under the shipped table, with the integer counts its class name leaves open,
a name is read by selecting the kind, reading the counts (the integers given,
or the digits of a τ name) and creating the observable from the object name and
the class name. -/
theorem parse_shipped_countKwargs {s : String} (hne : s ≠ "None") (m n : Int) :
    parse AliasTable.shipped s
        (countKwargs (kwargParams AliasTable.shipped (splitName s).2) m n) =
      match classKind AliasTable.shipped (splitName s).2 with
      | some kind => (nameCounts AliasTable.shipped kind (splitName s).2 m n >>=
          create kind (prefixArg (splitName s).1) (.str (splitName s).2) (.value .none)).map some
      | none => .error (.invalidObservable s) := by
  rw [parse_eq hne]
  rcases hsplit : splitName s with ⟨po, cn⟩
  dsimp only
  cases hfind : AliasTable.shipped.find? cn with
  | some kind =>
      simp only [classKind_of_find? hfind, kwargParams, nameCounts, hfind, Outcome.ok_bind]
      rw [ofNameAs_alias hsplit hfind]
  | none =>
      -- a class name outside the table is read as a τ name, if it is one
      simp only [kwargParams, nameCounts, hfind, countKwargs]
      unfold classKind
      rw [hfind]
      dsimp only
      by_cases h₁ : isTauName cn 1 = true
      · rw [if_pos h₁]
        dsimp only
        rw [ofNameAs_tauDigits hsplit (startsWithTau_of_isTauName h₁) (.inl rfl)]
      · rw [if_neg h₁]
        by_cases h₂ : isTauName cn 2 = true
        · rw [if_pos h₂]
          dsimp only
          rw [ofNameAs_tauDigits hsplit (startsWithTau_of_isTauName h₂) (.inr rfl)]
        · rw [if_neg h₂]

theorem splitName_of_dot_not_mem {s : String} (h : '.' ∉ s.toList) : splitName s = (none, s) := by
  unfold splitName
  rw [splitOn_eq (d := '.') rfl, splitList_of_not_mem h]
  simp

theorem ne_none_of_splitName {s po cn : String} (h : splitName s = (some po, cn)) :
    s ≠ "None" := by
  rintro rfl
  rw [splitName_of_dot_not_mem (by decide)] at h
  cases h

theorem parse_shipped_of_admits {s po cn : String} {kind : ObservableKind} {ks : List ObjectClass}
    {p : PhysicsObject} {counts : SubjetCounts} {m n : Int}
    (hsplit : splitName s = (some po, cn)) (hkind : classKind AliasTable.shipped cn = some kind)
    (hks : kind.supported = some ks) (hread : ofName po = .ok p) (hadmits : Admits kind ks p)
    (hcounts : nameCounts AliasTable.shipped kind cn m n = .ok counts) :
    parse AliasTable.shipped s (countKwargs (kwargParams AliasTable.shipped cn) m n) =
      .ok (some (created kind ks p (.str cn) counts)) := by
  have hobj : objectOfArg (prefixArg (some po)) = .ok (some p) := by
    simp [objectOfArg, prefixArg, hread, Except.map]
  have hcreate : create kind (prefixArg (some po)) (.str cn) (.value .none) counts =
      .ok (created kind ks p (.str cn) counts) :=
    (create_eq_ok_iff hks).mpr ⟨p, hobj, hadmits, rfl⟩
  have h := parse_shipped_countKwargs (ne_none_of_splitName hsplit) m n
  rw [hsplit] at h
  rw [h, hkind]
  simp only [hcounts, Outcome.ok_bind, hcreate]
  rfl

end Observable

end ColliderML
