import MockApi.FieldPath
import MockApi.Proofs.Text.Digits

/-! The text of a path can be read in one way only, as long as the names in it do not contain what
separates steps. -/
namespace MockApi

/-- A name that can be told from what stands around it in the text of a path. -/
structure PlainName (name : String) : Prop where
  nonempty : name ≠ ""
  dot : '.' ∉ name.toList
  bracket : '[' ∉ name.toList

namespace FieldPath

/-- Every name in the path is plain. -/
def Plain (path : FieldPath) : Prop := ∀ name, .field name ∈ path → PlainName name

/-- Begins a step behind others. -/
def isMark (c : Char) : Bool := c == '.' || c == '['

end FieldPath

theorem PlainName.isMark {name : String} (h : PlainName name) :
    ∀ c ∈ name.toList, FieldPath.isMark c = false := by
  intro c hc
  have hdot : c ≠ '.' := fun heq => h.dot (heq ▸ hc)
  have hbracket : c ≠ '[' := fun heq => h.bracket (heq ▸ hc)
  simp [FieldPath.isMark, hdot, hbracket]

namespace FieldPath

variable {path other : FieldPath} {step next : Step}

/-- A part without ends of its own goes up to the first end. -/
theorem append_inj_of_end {isEnd : Char → Bool} {part piece rest more : List Char}
    (hpart : ∀ c ∈ part, isEnd c = false) (hpiece : ∀ c ∈ piece, isEnd c = false)
    (hrest : ∀ c ∈ rest.head?, isEnd c = true) (hmore : ∀ c ∈ more.head?, isEnd c = true)
    (h : part ++ rest = piece ++ more) : part = piece ∧ rest = more := by
  induction part generalizing piece with
  | nil =>
    cases piece with
    | nil => exact ⟨rfl, h⟩
    | cons c piece =>
      have hend : isEnd c = true := hrest c (congrArg List.head? h)
      simp [hpiece c List.mem_cons_self] at hend
  | cons c part ih =>
    cases piece with
    | nil =>
      have hend : isEnd c = true := hmore c (congrArg List.head? h.symm)
      simp [hpart c List.mem_cons_self] at hend
    | cons d piece =>
      obtain ⟨rfl, htail⟩ := List.cons.inj h
      obtain ⟨rfl, hends⟩ := ih (fun e he => hpart e (List.mem_cons_of_mem _ he))
        (fun e he => hpiece e (List.mem_cons_of_mem _ he)) htail
      exact ⟨rfl, hends⟩

theorem isMark_head?_renderStep (step : Step) : ∀ c ∈ (renderStep step).head?, isMark c = true := by
  cases step <;> simp [renderStep, isMark]

/-- Behind a step there is nothing, or a mark that begins another one. -/
theorem isMark_head?_flatMap (path : FieldPath) :
    ∀ c ∈ (path.flatMap renderStep).head?, isMark c = true := by
  intro c hc
  cases path with
  | nil => simp at hc
  | cons step rest =>
    refine isMark_head?_renderStep step c ?_
    cases step <;> simpa [renderStep] using hc

theorem not_bracket_of_mem_toDigits {n : Nat} :
    ∀ c ∈ Nat.toDigits 10 n, (c == ']') = false := by
  intro c hc
  have hdigit := Nat.isDigit_of_mem_toDigits (by decide) (by decide) hc
  rw [beq_eq_false_iff_ne]
  rintro rfl
  exact absurd hdigit (by decide)

theorem toDigits_inj {n m : Nat} (h : Nat.toDigits 10 n = Nat.toDigits 10 m) : n = m := by
  have hread := congrArg (fun digits => Nat.ofDigitChars 10 digits 0) h
  simpa [Nat.ofDigitChars_toDigits] using hread

/-- A step and what follows it are read off a text that they make up. -/
theorem renderStep_append_inj (hstep : Plain [step]) (hnext : Plain [next])
    {rest more : List Char} (hrest : ∀ c ∈ rest.head?, isMark c = true)
    (hmore : ∀ c ∈ more.head?, isMark c = true)
    (h : renderStep step ++ rest = renderStep next ++ more) : step = next ∧ rest = more := by
  have hclosed {part piece : List Char} (hpart : ∀ c ∈ part, (c == ']') = false)
      (hpiece : ∀ c ∈ piece, (c == ']') = false)
      (h : part ++ ']' :: rest = piece ++ ']' :: more) : part = piece ∧ rest = more := by
    have hboth := append_inj_of_end hpart hpiece (by simp) (by simp) h
    exact ⟨hboth.1, (List.cons.inj hboth.2).2⟩
  have hnone : ∀ c ∈ ([] : List Char), (c == ']') = false := List.forall_mem_nil _
  cases step with
  | field name =>
    cases next with
    | field second =>
      have hname := (hstep name List.mem_cons_self).isMark
      have hsecond := (hnext second List.mem_cons_self).isMark
      obtain ⟨heq, hends⟩ := append_inj_of_end hname hsecond hrest hmore (List.cons.inj h).2
      exact ⟨congrArg Step.field (String.toList_inj.mp heq), hends⟩
    | index m => simp [renderStep] at h
    | anyIndex => simp [renderStep] at h
  | index n =>
    cases next with
    | field second => simp [renderStep] at h
    | index m =>
      have h' : Nat.toDigits 10 n ++ ']' :: rest = Nat.toDigits 10 m ++ ']' :: more := by
        simpa [renderStep] using h
      obtain ⟨hdigits, hends⟩ :=
        hclosed not_bracket_of_mem_toDigits not_bracket_of_mem_toDigits h'
      exact ⟨congrArg Step.index (toDigits_inj hdigits), hends⟩
    | anyIndex =>
      have h' : Nat.toDigits 10 n ++ ']' :: rest = [] ++ ']' :: more := by
        simpa [renderStep] using h
      exact absurd (hclosed not_bracket_of_mem_toDigits hnone h').1 Nat.toDigits_ne_nil
  | anyIndex =>
    cases next with
    | field second => simp [renderStep] at h
    | index m =>
      have h' : [] ++ ']' :: rest = Nat.toDigits 10 m ++ ']' :: more := by
        simpa [renderStep] using h
      exact absurd (hclosed hnone not_bracket_of_mem_toDigits h').1.symm Nat.toDigits_ne_nil
    | anyIndex => exact ⟨rfl, by simpa [renderStep] using h⟩

theorem Plain.head (h : Plain (step :: path)) : Plain [step] := fun name hname =>
  h name (List.mem_singleton.mp hname ▸ List.mem_cons_self)

theorem Plain.tail (h : Plain (step :: path)) : Plain path := fun name hname =>
  h name (List.mem_cons_of_mem _ hname)

theorem Plain.cons (hstep : ∀ name, step = .field name → PlainName name) (hpath : Plain path) :
    Plain (step :: path) := by
  intro name hname
  rcases List.mem_cons.mp hname with heq | hname
  · exact hstep name heq.symm
  · exact hpath name hname

/-- Steps that are all written with their marks. -/
theorem flatMap_renderStep_inj (hpath : path.Plain) (hother : other.Plain)
    (h : path.flatMap renderStep = other.flatMap renderStep) : path = other := by
  have hne (step : Step) (rest : FieldPath) : (step :: rest).flatMap renderStep ≠ [] := by
    cases step <;> simp [renderStep]
  induction path generalizing other with
  | nil =>
    cases other with
    | nil => rfl
    | cons next others => exact (hne next others h.symm).elim
  | cons step rest ih =>
    cases other with
    | nil => exact (hne step rest h).elim
    | cons next others =>
      obtain ⟨rfl, hrest⟩ := renderStep_append_inj hpath.head hother.head
        (isMark_head?_flatMap rest) (isMark_head?_flatMap others) h
      rw [ih hpath.tail hother.tail hrest]

/-- Only a path that begins with a name is written without a mark in front. -/
theorem renderChars_ne_flatMap {name : String} (hname : PlainName name) {tail : List Char} :
    name.toList ++ tail ≠ other.flatMap renderStep := by
  intro h
  cases hchars : name.toList with
  | nil => exact hname.nonempty (String.toList_eq_nil_iff.mp hchars)
  | cons c others =>
    have hmark := isMark_head?_flatMap other c (by rw [← h, hchars]; rfl)
    rw [hname.isMark c (hchars ▸ List.mem_cons_self)] at hmark
    exact Bool.false_ne_true hmark

theorem renderChars_of_not_field (h : ∀ name rest, path ≠ .field name :: rest) :
    path.renderChars = path.flatMap renderStep := by
  unfold renderChars
  split
  · next name rest => exact (h name rest rfl).elim
  · rfl

/-- Plain paths with the same text are the same. -/
theorem renderChars_inj (hpath : path.Plain) (hother : other.Plain)
    (h : path.renderChars = other.renderChars) : path = other := by
  by_cases hfirst : ∃ name rest, path = .field name :: rest
  · obtain ⟨name, rest, rfl⟩ := hfirst
    have hname := hpath name List.mem_cons_self
    by_cases hsecond : ∃ second others, other = .field second :: others
    · obtain ⟨second, others, rfl⟩ := hsecond
      obtain ⟨heq, hrest⟩ := append_inj_of_end hname.isMark
        (hother second List.mem_cons_self).isMark (isMark_head?_flatMap rest)
        (isMark_head?_flatMap others) h
      rw [String.toList_inj.mp heq, flatMap_renderStep_inj hpath.tail hother.tail hrest]
    · have hmarked :=
        renderChars_of_not_field fun second others heq => hsecond ⟨second, others, heq⟩
      exact (renderChars_ne_flatMap hname (h.trans hmarked)).elim
  · have hmarked := renderChars_of_not_field fun name rest heq => hfirst ⟨name, rest, heq⟩
    by_cases hsecond : ∃ second others, other = .field second :: others
    · obtain ⟨second, others, rfl⟩ := hsecond
      have hname := hother second List.mem_cons_self
      exact (renderChars_ne_flatMap hname (h.symm.trans hmarked)).elim
    · have hmarked' :=
        renderChars_of_not_field fun second others heq => hsecond ⟨second, others, heq⟩
      rw [hmarked, hmarked'] at h
      exact flatMap_renderStep_inj hpath hother h

theorem render_inj (hpath : path.Plain) (hother : other.Plain) (h : path.render = other.render) :
    path = other :=
  renderChars_inj hpath hother (String.ofList_injective h)

end FieldPath
end MockApi
