import MockApi.Proofs.Generator.Acceptance
import MockApi.Proofs.Generator.Filler
import MockApi.Proofs.Generator.Output

/-! Ranges of integers and of counts of words and sentences: which of them are accepted, and that
the results keep to them. -/
namespace MockApi.Generator

variable {params : Params} {names : List String}

/-- An integer of 64 bits with a sign. -/
def IsInt64 (value : Json) : Prop := ∃ n : Int, value = .int n ∧ -2 ^ 63 ≤ n ∧ n < 2 ^ 63

/-- An integer of 64 bits with a sign that is not negative. -/
def IsCount (value : Json) : Prop := ∃ n : Nat, value = .int n ∧ n < 2 ^ 63

theorem accepts_integer_iff {value : Json} :
    ParamKind.integer.accepts value = true ↔ IsInt64 value := by
  unfold ParamKind.accepts IsInt64
  cases value <;> simp [Json.asInt64?]

/-- Two optional integers. -/
theorem check_integers_iff {low high : String} :
    check [integerParam low, integerParam high] params = .ok () ↔
      params.Only [low, high] IsInt64 := by
  have hspecs : ∀ spec ∈ [integerParam low, integerParam high],
      spec.required = false ∧ spec.kind = .integer := by
    simp [integerParam]
  rw [check_optional_eq_ok_iff hspecs]
  simp only [accepts_integer_iff]
  rfl

/-! ## Integers -/

/-- The parameters ask for the integers from one to another. -/
structure IntegerRange (params : Params) (min max : Int) : Prop where
  only : params.Only ["min", "max"] IsInt64
  min_eq : params.valueOr "min" (.int 0) = .int min
  max_eq : params.valueOr "max" (.int 100) = .int max
  ordered : min ≤ max

theorem valueOr_int (h : params.Only names IsInt64) (name : String) (default : Int) :
    params.valueOr name (.int default) = .int (intOr params name default) := by
  unfold Params.valueOr intOr
  cases hvalue : params.find? name with
  | none => rfl
  | some value =>
    obtain ⟨-, n, rfl, hn⟩ := h name value hvalue
    have hread : (Json.int n).asInt64? = some n := if_pos hn
    rw [Option.bind_some, hread]
    rfl

/-- An integer of 64 bits between two such integers, also between the least and the greatest. -/
theorem integer_succeeds {min max : Int} (h : IntegerRange params min max) :
    Succeeds (fun value => ∃ n, value = .int n ∧ min ≤ n ∧ n ≤ max) (integer.produce params) := by
  have hmin : intOr params "min" 0 = min :=
    Json.int.inj ((valueOr_int h.only "min" 0).symm.trans h.min_eq)
  have hmax : intOr params "max" 100 = max :=
    Json.int.inj ((valueOr_int h.only "max" 100).symm.trans h.max_eq)
  have hzero : -2 ^ 63 ≤ (0 : Int) ∧ (0 : Int) < 2 ^ 63 := by decide
  have hhundred : -2 ^ 63 ≤ (100 : Int) ∧ (100 : Int) < 2 ^ 63 := by decide
  have hlow := (intOr_mem params "min" hzero).1
  have hhigh := (intOr_mem params "max" hhundred).2
  rw [hmin] at hlow
  rw [hmax] at hhigh
  have hchecked : ¬intOr params "min" 0 > intOr params "max" 100 := by
    rw [hmin, hmax]
    exact Int.not_lt.mpr h.ordered
  unfold integer
  dsimp only
  refine .check hchecked ?_
  rw [hmin, hmax]
  exact (Succeeds.lift (Draw.between_mem h.ordered hlow hhigh)).map fun n hn => ⟨n, rfl, hn⟩

theorem integer_fails (honly : params.Only ["min", "max"] IsInt64)
    (hnone : ¬∃ min max, IntegerRange params min max) :
    ∃ fault, Fails (.fault fault) (integer.produce params) := by
  have horder : intOr params "min" 0 > intOr params "max" 100 := by
    by_contra hle
    exact hnone ⟨_, _, honly, valueOr_int honly _ _, valueOr_int honly _ _, Int.not_lt.mp hle⟩
  exact ⟨_, .check horder⟩

theorem integer_honours (params : Params) (source : Source) :
    Honours "integer" params source (IntegerRange params) fun min max value =>
      ∃ n, value = .int n ∧ min ≤ n ∧ n ≤ max := by
  apply honours_of_produce (show find? "integer" = some integer by rfl)
  · intro min max h
    exact check_integers_iff.mpr h.only
  · intro min max h
    exact integer_succeeds h
  · intro hcheck hnone
    exact integer_fails (check_integers_iff.mp hcheck) hnone

/-! ## Counts -/

/-- The parameters ask for the counts from one to another. The default of the greatest count gives
way to a larger least one. -/
structure CountRange (minName maxName : String) (defaultMin defaultMax : Nat) (params : Params)
    (min max : Nat) : Prop where
  only : params.Only [minName, maxName] IsCount
  min_eq : params.valueOr minName (.int defaultMin) = .int min
  max_eq : params.valueOr maxName (.int (Nat.max defaultMax min)) = .int max
  limited : max ≤ 1000
  ordered : min ≤ max

/-- Of integers, a bound is a count, or it is refused. -/
theorem countOr_cases (h : params.Only names IsInt64) (name : String) (default : Nat) :
    (∃ n : Nat, params.valueOr name (.int default) = .int n ∧
      Succeeds (fun read => read = n) (countOr params name default)) ∨
    ((∀ n : Nat, params.valueOr name (.int default) ≠ .int n) ∧
      ∃ fault, Fails (.fault fault) (countOr params name default)) := by
  unfold Params.valueOr countOr
  cases hvalue : params.find? name with
  | none => exact .inl ⟨default, rfl, .pure rfl⟩
  | some value =>
    obtain ⟨-, n, rfl, hn⟩ := h name value hvalue
    rw [Option.getD_some]
    dsimp only
    by_cases hnegative : n < 0
    · have hread : (Json.int n).asSize? = none := if_neg (by omega)
      rw [hread]
      refine .inr ⟨fun m heq => ?_, _, .throw _⟩
      cases heq
      omega
    · have hread : (Json.int n).asSize? = some n.toNat := if_pos (by omega)
      rw [hread]
      exact .inl ⟨n.toNat, by rw [Int.toNat_of_nonneg (Int.not_lt.mp hnegative)], .pure rfl⟩

theorem countOr_succeeds (h : params.Only names IsInt64) {name : String} {default n : Nat}
    (hn : params.valueOr name (.int default) = .int n) :
    Succeeds (fun read => read = n) (countOr params name default) := by
  rcases countOr_cases h name default with ⟨other, hother, hsucceeds⟩ | ⟨hnone, -⟩
  · cases hother.symm.trans hn
    exact hsucceeds
  · exact (hnone n hn).elim

/-- Integers of which every one is read as a count are counts. -/
theorem only_counts {low high : String} {least greatest least' greatest' : Nat}
    (h : params.Only [low, high] IsInt64) (hlow : params.valueOr low (.int least) = .int least')
    (hhigh : params.valueOr high (.int greatest) = .int greatest') :
    params.Only [low, high] IsCount := by
  intro name value hvalue
  obtain ⟨hname, n, rfl, -, hn⟩ := h name value hvalue
  have hcount : ∃ m : Nat, n = m := by
    unfold Params.valueOr at hlow hhigh
    rw [List.mem_cons, List.mem_singleton] at hname
    rcases hname with rfl | rfl
    · rw [hvalue] at hlow
      exact ⟨least', Json.int.inj hlow⟩
    · rw [hvalue] at hhigh
      exact ⟨greatest', Json.int.inj hhigh⟩
  obtain ⟨m, rfl⟩ := hcount
  exact ⟨hname, m, rfl, by omega⟩

variable {minName maxName : String} {defaultMin defaultMax : Nat}

theorem IsCount.isInt64 {value : Json} (h : IsCount value) : IsInt64 value := by
  obtain ⟨n, rfl, hn⟩ := h
  exact ⟨n, rfl, by omega, by omega⟩

theorem countRange_succeeds {min max : Nat}
    (h : CountRange minName maxName defaultMin defaultMax params min max) :
    Succeeds (fun range => range = (min, max))
      (countRange params minName maxName defaultMin defaultMax) := by
  have honly : params.Only [minName, maxName] IsInt64 := h.only.mono fun _ => IsCount.isInt64
  unfold countRange
  apply (countOr_succeeds honly h.min_eq).bind_eq
  apply (countOr_succeeds honly h.max_eq).bind_eq
  exact .check (Nat.not_lt.mpr h.limited) (.check (Nat.not_lt.mpr h.ordered) (.pure rfl))

theorem countRange_fails (honly : params.Only [minName, maxName] IsInt64)
    (hnone : ¬∃ min max, CountRange minName maxName defaultMin defaultMax params min max) :
    ∃ fault, Fails (.fault fault) (countRange params minName maxName defaultMin defaultMax) := by
  unfold countRange
  rcases countOr_cases honly minName defaultMin with ⟨min, hmin, hsucceeds⟩ | ⟨-, fault, hfails⟩
  · rcases countOr_cases honly maxName (Nat.max defaultMax min) with
      ⟨max, hmax, hsucceeds'⟩ | ⟨-, fault, hfails⟩
    · by_cases hlimit : max ≤ 1000
      · have hreversed : max < min := by
          by_contra hle
          exact hnone ⟨min, max, only_counts honly hmin hmax, hmin, hmax, hlimit, Nat.not_lt.mp hle⟩
        refine ⟨.reversedCounts minName min maxName max, ?_⟩
        apply Fails.bind_eq hsucceeds
        apply Fails.bind_eq hsucceeds'
        exact .passed (Nat.not_lt.mpr hlimit) (.check hreversed)
      · refine ⟨.countTooLarge maxName max, ?_⟩
        apply Fails.bind_eq hsucceeds
        apply Fails.bind_eq hsucceeds'
        exact .check (Nat.not_le.mp hlimit)
    · exact ⟨fault, .bind_eq hsucceeds hfails.bind⟩
  · exact ⟨fault, hfails.bind⟩

/-- A generator that draws a text for a range of counts. -/
theorem counts_honoured {id : String} {generator : Generator} {draw : Nat → Nat → Draw String}
    {Is : Nat → Nat → String → Prop} (hfind : find? id = some generator)
    (hparams : generator.params = [integerParam minName, integerParam maxName])
    (hproduce : generator.produce params =
      countRange params minName maxName defaultMin defaultMax >>= fun range =>
        Json.str <$> ExceptT.lift (draw range.1 range.2))
    (hdraw : ∀ min max, min ≤ max → (draw min max).Always (Is min max)) (source : Source) :
    Honours id params source (CountRange minName maxName defaultMin defaultMax params)
      fun min max value => ∃ text, value = .str text ∧ Is min max text := by
  apply honours_of_produce hfind
  · intro min max h
    rw [hparams]
    exact check_integers_iff.mpr (h.only.mono fun _ => IsCount.isInt64)
  · intro min max h
    rw [hproduce]
    apply (countRange_succeeds h).bind_eq
    exact (Succeeds.lift (hdraw min max h.ordered)).map fun text htext => ⟨text, rfl, htext⟩
  · intro hcheck hnone
    rw [hparams] at hcheck
    rw [hproduce]
    obtain ⟨fault, hfails⟩ := countRange_fails (check_integers_iff.mp hcheck) hnone
    exact ⟨fault, hfails.bind⟩

/-- Integers, sentences and paragraphs are drawn for exactly the parameters that ask for a range,
and keep to it: the integer lies in the range, and so do the numbers of words and of sentences that
are joined. All other parameters are refused. -/
theorem ranges_are_honoured (params : Params) (source : Source) :
    Honours "integer" params source (IntegerRange params)
      (fun min max value => ∃ n, value = .int n ∧ min ≤ n ∧ n ≤ max) ∧
    Honours "sentence" params source (CountRange "min_words" "max_words" 3 10 params)
      (fun min max value => ∃ text, value = .str text ∧ IsSentence min max text) ∧
    Honours "paragraph" params source (CountRange "min_sentences" "max_sentences" 1 3 params)
      (fun min max value => ∃ text, value = .str text ∧ IsParagraph min max text) := by
  have hsentence : find? "sentence" = some sentence := rfl
  have hparagraph : find? "paragraph" = some paragraph := rfl
  exact ⟨integer_honours params source,
    counts_honoured hsentence rfl rfl (fun _ _ => drawSentence_always) source,
    counts_honoured hparagraph rfl rfl (fun _ _ => drawParagraph_always) source⟩

end MockApi.Generator
