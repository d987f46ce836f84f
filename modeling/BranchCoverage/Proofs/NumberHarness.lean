/-
Which texts are numbers to the parser of the small target.

The parser looks at what is left of a text without white space around it and without a
minus in front, and what decides is the run of digits that this starts with.  As long as
the value of the run fits, the value of every part of it does, for a value only grows
with more digits (`le_ofDigitChars`).  If it does not fit, one of the digits makes the
multiplication or the addition overflow, before anything behind the run is looked at
(`reading_readDigits`).
-/
import Mathlib.Algebra.Group.Nat.Defs
import BranchCoverage.NumberHarness
import BranchCoverage.Proofs.Text.Numeral
import BranchCoverage.Proofs.Text.Whitespace

namespace BranchCoverage.NumberHarness

variable {seen : Nat} {c : Char} {cs rest : List Char}

/-! ### Digits -/

/-- The run of digits in front. -/
def leadingDigits (cs : List Char) : List Char :=
  cs.takeWhile Char.isDigit

theorem leadingDigits_cons_of_isDigit (h : c.isDigit = true) (rest : List Char) :
    leadingDigits (c :: rest) = c :: leadingDigits rest :=
  List.takeWhile_cons_of_pos h

theorem leadingDigits_cons_of_not_isDigit (h : ¬ c.isDigit = true) (rest : List Char) :
    leadingDigits (c :: rest) = [] :=
  List.takeWhile_cons_of_neg h

theorem leadingDigits_eq_self (h : ∀ c ∈ cs, c.isDigit = true) : leadingDigits cs = cs :=
  List.takeWhile_eq_self_iff.mpr h

theorem le_ofDigitChars (seen : Nat) (cs : List Char) : seen ≤ Nat.ofDigitChars 10 cs seen := by
  rw [Nat.ofDigitChars_eq_ofDigitChars_zero]
  have hscale : seen ≤ 10 ^ cs.length * seen := Nat.le_mul_of_pos_left _ (Nat.pow_pos (by decide))
  exact hscale.trans (Nat.le_add_right _ _)

/-! ### Reading digits -/

theorem greatest_eq : greatest = 2 ^ 63 - 1 :=
  rfl

/-- The outcome is a panic. -/
def Outcome.Panics (o : Outcome) : Prop :=
  o = .multiplyOverflow ∨ o = .addOverflow

theorem not_panics_value (n : Int) : ¬ (Outcome.value n).Panics := by
  simp [Outcome.Panics]

theorem not_panics_nothing : ¬ Outcome.nothing.Panics := by
  simp [Outcome.Panics]

/-- What reading comes to behind digits of the value `seen`. -/
inductive Reading (seen : Nat) (cs : List Char) : Except Outcome Nat → Prop
  | panics {o : Outcome} (ho : o.Panics)
      (hlarge : greatest < Nat.ofDigitChars 10 (leadingDigits cs) seen) : Reading seen cs (.error o)
  | stray (hfits : Nat.ofDigitChars 10 (leadingDigits cs) seen ≤ greatest)
      (hmore : leadingDigits cs ≠ cs) : Reading seen cs (.error .nothing)
  | digits (hfits : Nat.ofDigitChars 10 (leadingDigits cs) seen ≤ greatest)
      (hall : leadingDigits cs = cs) : Reading seen cs (.ok (Nat.ofDigitChars 10 cs seen))

/-- A digit that is read takes its part in the value. -/
theorem Reading.cons {result : Except Outcome Nat} (hc : c.isDigit = true)
    (hread : Reading (seen * 10 + (c.toNat - '0'.toNat)) rest result) :
    Reading seen (c :: rest) result := by
  have hvalue (cs : List Char) : Nat.ofDigitChars 10 (c :: cs) seen =
      Nat.ofDigitChars 10 cs (seen * 10 + (c.toNat - '0'.toNat)) := by
    rw [Nat.ofDigitChars_cons, Nat.mul_comm]
  have hrun := leadingDigits_cons_of_isDigit hc rest
  cases hread with
  | panics ho hlarge => exact .panics ho (by rwa [hrun, hvalue])
  | stray hfits hmore =>
    exact .stray (by rwa [hrun, hvalue]) (by rwa [hrun, ne_eq, List.cons_inj_right])
  | digits hfits hall =>
    rw [← hvalue]
    exact .digits (by rwa [hrun, hvalue]) (by rw [hrun, hall])

theorem reading_readDigits (cs : List Char) (hseen : seen ≤ greatest) (count : Nat) :
    Reading seen cs (readDigits seen count cs).2 := by
  induction cs generalizing seen count with
  | nil => exact .digits hseen rfl
  | cons c rest ih =>
    by_cases hc : c.isDigit = true
    · -- the value of the run is at least what this digit makes of the value so far
      have hleast : seen * 10 + (c.toNat - '0'.toNat) ≤
          Nat.ofDigitChars 10 (leadingDigits (c :: rest)) seen := by
        rw [leadingDigits_cons_of_isDigit hc, Nat.ofDigitChars_cons, Nat.mul_comm 10]
        exact le_ofDigitChars _ _
      rw [readDigits, Text.digitValue?_of_isDigit hc]
      dsimp only
      split
      · exact .panics (.inl rfl) (by omega)
      · split
        · exact .panics (.inr rfl) (by omega)
        · next hfits => exact (ih (Nat.not_lt.mp hfits) _).cons hc
    · have hrun := leadingDigits_cons_of_not_isDigit hc rest
      rw [readDigits, Text.digitValue?_of_not_isDigit hc]
      exact .stray (by rwa [hrun]) (by rw [hrun]; exact (List.cons_ne_nil _ _).symm)

/-! ### Signs -/

/-- A text without a minus in front. -/
def unsigned (t : List Char) : List Char :=
  if t.head? = some '-' then t.tail else t

/-- A value with the sign that the text has in front. -/
def signed (t : List Char) (n : Nat) : Int :=
  if t.head? = some '-' then -n else n

theorem splitSign_eq (t : List Char) :
    splitSign t = (decide (t.head? = some '-'), unsigned t) := by
  rw [splitSign.eq_def]
  split
  · rfl
  · next hplain =>
    have hhead : ¬ t.head? = some '-' := fun h => by
      obtain ⟨rest, rfl⟩ := List.head?_eq_some_iff.mp h
      exact hplain rest rfl
    rw [decide_eq_false hhead, unsigned, if_neg hhead]

/-! ### Parsing -/

/-- The value of digits. -/
def decimal (cs : List Char) : Nat :=
  Nat.ofDigitChars 10 cs 0

/-- What parsing comes to if the text without white space around it is `t`. -/
inductive Parsing (t : List Char) : List UInt32 × Outcome → Prop
  | panics {hits : List UInt32} {o : Outcome} (ho : o.Panics)
      (hlarge : greatest < decimal (leadingDigits (unsigned t)))
      (hplain : negateSite ∉ hits) : Parsing t (hits, o)
  | nothing {hits : List UInt32} (hfits : decimal (leadingDigits (unsigned t)) ≤ greatest)
      (hnone : unsigned t = [] ∨ leadingDigits (unsigned t) ≠ unsigned t)
      (hplain : negateSite ∉ hits) : Parsing t (hits, .nothing)
  | number {hits : List UInt32} {n : Int}
      (hfits : decimal (leadingDigits (unsigned t)) ≤ greatest)
      (hsome : unsigned t ≠ []) (hall : leadingDigits (unsigned t) = unsigned t)
      (hn : n = signed t (decimal (unsigned t)))
      (hnegated : negateSite ∈ hits → t.head? = some '-') : Parsing t (hits, .value n)

theorem negateSite_notMem (negative : Bool) (count : Nat) :
    negateSite ∉ [enterSite, if negative then minusSite else plainSite] ++
      List.replicate count digitSite := by
  rw [List.mem_append, not_or]
  constructor
  · cases negative <;> decide
  · intro hmem
    exact absurd (List.eq_of_mem_replicate hmem) (by decide)

theorem parsing_parse (text : String) : Parsing (Text.trimmed text.toList) (parse text) := by
  rw [parse]
  -- from here on, only what stands between the white space counts
  generalize Text.trimmed text.toList = t
  rw [splitSign_eq]
  dsimp only
  by_cases hempty : unsigned t = []
  · have hfits : decimal (leadingDigits (unsigned t)) ≤ greatest := by
      rw [hempty]
      exact Nat.zero_le _
    rw [if_pos (List.isEmpty_iff.mpr hempty)]
    refine .nothing hfits (.inl hempty) ?_
    cases decide (t.head? = some '-') <;> decide
  · have hread := reading_readDigits (unsigned t) (Nat.zero_le greatest) 0
    rw [if_neg (List.isEmpty_iff.not.mpr hempty)]
    generalize readDigits 0 0 (unsigned t) = read at hread ⊢
    obtain ⟨count, result⟩ := read
    have hplain := negateSite_notMem (decide (t.head? = some '-')) count
    cases hread with
    | panics ho hlarge => exact .panics ho hlarge hplain
    | stray hfits hmore => exact .nothing hfits (.inr hmore) hplain
    | digits hfits hall =>
      dsimp only
      split
      · next hminus =>
        have hhead : t.head? = some '-' := of_decide_eq_true hminus
        exact .number hfits hempty hall (by rw [signed, if_pos hhead]; rfl) fun _ => hhead
      · next hminus =>
        have hhead : ¬ t.head? = some '-' := fun h => hminus (decide_eq_true h)
        exact .number hfits hempty hall (by rw [signed, if_neg hhead]; rfl)
          fun hmem => absurd hmem (negateSite_notMem false count)

theorem panic_execution (text : String) :
    (execution text).panic.isSome = true ↔ (parse text).2.Panics := by
  rw [execution, Outcome.Panics]
  rcases parse text with ⟨hits, outcome⟩
  cases outcome <;> simp

theorem value?_eq_some_iff (text : String) (n : Int) :
    value? text = some n ↔ (parse text).2 = .value n := by
  rw [value?]
  cases (parse text).2 <;> simp

/-- A text is `t` with white space around it. -/
structure Trims (text : String) (t : List Char) : Prop where
  bare : Text.Bare t
  padded : ∃ before after, text.toList = before ++ t ++ after ∧
    Text.IsBlank before ∧ Text.IsBlank after

/-- How a text is parsed that is `t` with white space around it. -/
structure Accepts (text : String) (t : List Char) : Prop where
  /-- Whatever stands behind the first digits, it is their value that makes it panic. -/
  panics : (execution text).panic.isSome = true ↔
    2 ^ 63 - 1 < decimal (leadingDigits (unsigned t))
  value : ∀ n, value? text = some n ↔
    decimal (leadingDigits (unsigned t)) ≤ 2 ^ 63 - 1 ∧
      unsigned t ≠ [] ∧ leadingDigits (unsigned t) = unsigned t ∧
      n = signed t (decimal (unsigned t))
  nothing : (parse text).2 = .nothing ↔
    decimal (leadingDigits (unsigned t)) ≤ 2 ^ 63 - 1 ∧
      (unsigned t = [] ∨ leadingDigits (unsigned t) ≠ unsigned t)
  /-- Negation in 64 bits is negation, wherever parsing comes to it. -/
  negates : negateSite ∈ (parse text).1 →
    ∃ n : Int64, 0 ≤ n ∧ (-n).toInt = -n.toInt ∧ value? text = some (-n).toInt

theorem neg_of_le_greatest {n : Nat} (h : n ≤ greatest) :
    ∃ m : Int64, 0 ≤ m ∧ (-m).toInt = -m.toInt ∧ (-m).toInt = -(n : Int) := by
  have hlt : n < 2 ^ 63 := by
    rw [greatest_eq] at h
    omega
  have hvalue := Int64.toInt_ofNat_of_lt hlt
  have hneg := Int64.toInt_neg_ofNat_of_le hlt.le
  refine ⟨Int64.ofNat n, ?_, by rw [hneg, hvalue], hneg⟩
  rw [Int64.le_iff_toInt_le, hvalue]
  exact Int.natCast_nonneg n

theorem accepts_trimmed (text : String) : Accepts text (Text.trimmed text.toList) := by
  have hparse := parsing_parse text
  have hpanic := panic_execution text
  have hvalue (n : Int) := value?_eq_some_iff text n
  generalize Text.trimmed text.toList = t at hparse ⊢
  rcases hresult : parse text with ⟨hits, outcome⟩
  rw [hresult] at hparse hpanic
  simp only [hresult] at hvalue
  cases hparse with
  | panics ho hlarge hplain =>
    have hnot : ¬ decimal (leadingDigits (unsigned t)) ≤ greatest := Nat.not_le.mpr hlarge
    exact {
      panics := hpanic.trans (iff_of_true ho hlarge)
      value := fun n => (hvalue n).trans <| iff_of_false
        (fun h => not_panics_value n (h ▸ ho)) fun h => hnot h.1
      nothing := by
        rw [hresult]
        exact iff_of_false (fun h => not_panics_nothing (h ▸ ho)) fun h => hnot h.1
      negates := fun hmem => absurd hmem (by rwa [hresult]) }
  | nothing hfits hnone hplain =>
    exact {
      panics := hpanic.trans (iff_of_false not_panics_nothing (Nat.not_lt.mpr hfits))
      value := fun n => (hvalue n).trans <| iff_of_false Outcome.noConfusion
        fun ⟨_, hsome, hall, _⟩ => hnone.elim hsome fun hmore => hmore hall
      nothing := by
        rw [hresult]
        exact iff_of_true rfl ⟨hfits, hnone⟩
      negates := fun hmem => absurd hmem (by rwa [hresult]) }
  | number hfits hsome hall hn hnegated =>
    exact {
      panics := hpanic.trans (iff_of_false (not_panics_value _) (Nat.not_lt.mpr hfits))
      value := fun n => (hvalue n).trans
        ⟨fun h => ⟨hfits, hsome, hall, by cases h; exact hn⟩,
          fun ⟨_, _, _, h⟩ => by rw [h, ← hn]⟩
      nothing := by
        rw [hresult]
        exact iff_of_false Outcome.noConfusion fun ⟨_, hnone⟩ =>
          hnone.elim hsome fun hmore => hmore hall
      negates := by
        intro hmem
        rw [hresult] at hmem
        have hhead := hnegated hmem
        obtain ⟨m, hm, hneg, hmvalue⟩ := neg_of_le_greatest (hall ▸ hfits)
        refine ⟨m, hm, hneg, ?_⟩
        rw [hvalue, hn, hmvalue, signed, if_pos hhead] }

/-! ### Decimal forms -/

section DecimalForm

variable (z : Int)

theorem head?_toString : (toString z).toList.head? = some '-' ↔ z < 0 := by
  rw [Text.toList_toString_int]
  split
  · next hz => exact iff_of_true rfl hz
  · next hz =>
    -- the first character is a digit
    refine iff_of_false (fun hhead => ?_) hz
    have hdigit := Text.isDigit_of_mem_toString (List.mem_of_head? hhead)
    exact absurd hdigit (by decide)

theorem unsigned_toString :
    unsigned (toString z).toList = (toString z.natAbs).toList := by
  rw [unsigned]
  split
  · next hhead => rw [Text.toList_toString_int, if_pos ((head?_toString z).mp hhead)]; rfl
  · next hhead => rw [Text.toList_toString_int, if_neg ((head?_toString z).not.mp hhead)]; rfl

theorem signed_toString : signed (toString z).toList z.natAbs = z := by
  rw [signed]
  split
  · next hhead =>
    have hz := (head?_toString z).mp hhead
    omega
  · next hhead =>
    have hz := (head?_toString z).not.mp hhead
    omega

/-- A decimal form has no white space in it. -/
theorem trimmed_toString : Text.trimmed (toString z).toList = (toString z).toList := by
  refine Text.trimmed_eq_self (Text.bare_of_forall fun c hc => ?_)
  rw [Text.toList_toString_int, List.mem_append] at hc
  rcases hc with hsign | hdigit
  · have hminus : c = '-' := by
      split at hsign
      · exact List.mem_singleton.mp hsign
      · exact absurd hsign List.not_mem_nil
    rw [hminus]
    decide
  · exact Text.isSpace_of_isDigit (Text.isDigit_of_mem_toString hdigit)

/-- How the decimal form of a whole number is parsed, whether it fits or not. -/
theorem accepts_toString :
    ((execution (toString z)).panic.isSome = true ↔ 2 ^ 63 - 1 < z.natAbs) ∧
      (z.natAbs ≤ 2 ^ 63 - 1 → value? (toString z) = some z) := by
  have haccepts := accepts_trimmed (toString z)
  have hdigits : leadingDigits (toString z.natAbs).toList = (toString z.natAbs).toList :=
    leadingDigits_eq_self fun c hc => Text.isDigit_of_mem_toString hc
  have hdecimal : decimal (toString z.natAbs).toList = z.natAbs := Text.ofDigitChars_toString _
  rw [trimmed_toString] at haccepts
  -- the run of digits is all of them, and its value is the absolute value
  constructor
  · rw [haccepts.panics, unsigned_toString, hdigits, hdecimal]
  · intro hfits
    rw [haccepts.value, unsigned_toString, hdigits, hdecimal]
    exact ⟨hfits, Text.toString_toList_ne_nil _, rfl, (signed_toString z).symm⟩

end DecimalForm

/-- What the parser accepts. -/
structure AcceptsDecimals : Prop where
  trims : ∀ text, ∃ t, Trims text t
  accepts : ∀ text t, Trims text t → Accepts text t
  decimalForm : ∀ n : Int64, n ≠ Int64.minValue → value? (toString n) = some n.toInt
  smallest : (execution (toString Int64.minValue)).panic.isSome = true

/-- **The parser accepts the decimal numbers that fit, with white space around them, and
panics where the digits in front have a value that does not.** -/
theorem acceptsDecimals : AcceptsDecimals where
  trims _ := ⟨_, Text.bare_trimmed _, Text.exists_padding _⟩
  accepts text t htrims := by
    obtain ⟨before, after, htext, hbefore, hafter⟩ := htrims.padded
    have ht : Text.trimmed text.toList = t := by
      rw [htext, Text.trimmed_pad hbefore htrims.bare hafter]
    exact ht ▸ accepts_trimmed text
  decimalForm := by
    intro n hn
    have hlow := Int64.le_toInt n
    have hhigh := Int64.toInt_lt n
    have hne : n.toInt ≠ -2 ^ 63 := fun h =>
      hn (Int64.toInt_inj.mp (h.trans Int64.toInt_minValue.symm))
    exact (accepts_toString n.toInt).2 (by omega)
  smallest := (accepts_toString Int64.minValue.toInt).1.mpr (by rw [Int64.toInt_minValue]; decide)

end BranchCoverage.NumberHarness
