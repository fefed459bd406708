import CompletionStream.Chat.Usage
import Mathlib.Tactic.SplitIfs

/-!
# Integers — two ways to read one, which agree

A count is taken in two ways: by the reader of integer fields, and in the lenient way, in which
it is summed up.  Neither takes all that the other does.  A field takes a fraction of zeros in a
text, and no digits but ASCII's; the lenient way takes the digits of any script, no fraction in
a text, and cuts the fraction off a double.  It takes whatever is empty for zero, too.

Where both take a value, they take it for the same integer (`integer_unique`).  For texts this
is so because what the lenient way takes has no point to drop (`digitRun?_no_point`), and for
doubles because a double that is empty is one of the two zeros (`beq_zero_iff`).  Conversely a
value that is not empty and is an integer of zero can only be a text (`text_of_zero`).
-/

namespace CompletionStream

-- ── Doubles ────────────────────────────────────────────────────────────────────────

section Doubles

open Float.Model

/-- A double compares as equal with zero if it is one of the two zeros. -/
theorem compare_zero_eq {a : UnpackedFloat} {s : UnpackedFloat.Sign} :
    a.compare (.zero s) = some .eq ↔ ∃ t, a = .zero t := by
  cases a with
  | notANumber => exact iff_of_false nofun (by rintro ⟨t, ⟨⟩⟩)
  | infinity t => exact iff_of_false (by cases t <;> rintro ⟨⟩) (by rintro ⟨t, ⟨⟩⟩)
  | zero t => exact iff_of_true rfl ⟨t, rfl⟩
  | finite t => exact iff_of_false (by cases t <;> rintro ⟨⟩) (by rintro ⟨t, ⟨⟩⟩)

/-- The zeros are the doubles whose exponent and fraction fields are zero. -/
theorem unpack_eq_zero {b : BitVec 64} :
    (∃ t, UnpackedFloat.unpack Format.binary64 b = .zero t)
      ↔ b.toNat / Nat.pow 2 52 % Nat.pow 2 11 = 0 ∧ b.toNat % Nat.pow 2 52 = 0 := by
  have hexponent : (@UnpackedFloat.unpackExponent Format.binary64 b).toNat
      = b.toNat / Nat.pow 2 52 % Nat.pow 2 11 := by
    simp [UnpackedFloat.unpackExponent, Nat.shiftRight_eq_div_pow]
  have hfraction : (@UnpackedFloat.unpackMantissa Format.binary64 b).toNat
      = b.toNat % Nat.pow 2 52 := by
    simp [UnpackedFloat.unpackMantissa]
  have hzero {n : Nat} {field : BitVec n} : field.toNat = 0 ↔ field = 0#n :=
    ⟨fun h => BitVec.eq_of_toNat_eq h, fun h => h ▸ rfl⟩
  have hones : (-1#11) ≠ 0#11 := by decide
  rw [← hexponent, ← hfraction, hzero, hzero]
  delta UnpackedFloat.unpack
  dsimp only
  by_cases hall : @UnpackedFloat.unpackExponent Format.binary64 b = -1#11
  · have hfirst : ¬ @UnpackedFloat.unpackExponent Format.binary64 b = 0#11 :=
      fun h => hones (hall.symm.trans h)
    rw [if_pos hall]
    split <;> exact iff_of_false (by rintro ⟨t, ⟨⟩⟩) fun h => hfirst h.1
  · rw [if_neg hall]
    by_cases hfirst : @UnpackedFloat.unpackExponent Format.binary64 b = 0#11
    · rw [if_pos hfirst]
      by_cases hsecond : @UnpackedFloat.unpackMantissa Format.binary64 b = 0#52
      · rw [dif_pos hsecond]
        exact iff_of_true ⟨_, rfl⟩ ⟨hfirst, hsecond⟩
      · rw [dif_neg hsecond]
        exact iff_of_false (by rintro ⟨t, ⟨⟩⟩) fun h => hsecond h.2
    · rw [if_neg hfirst]
      exact iff_of_false (by rintro ⟨t, ⟨⟩⟩) fun h => hfirst h.1

/-- The same is said of the fields when they are read as a magnitude. -/
theorem ofFloat_eq_zero {x : Float} :
    (∃ negative exponent, FloatClass.ofFloat x = .finite negative 0 exponent)
      ↔ x.toBits.toNat / Nat.pow 2 52 % Nat.pow 2 11 = 0 ∧ x.toBits.toNat % Nat.pow 2 52 = 0 := by
  rw [FloatClass.ofFloat, show Nat.pow 2 11 = 2048 from rfl]
  simp only [Nat.pow_eq]
  generalize x.toBits.toNat = bits
  split_ifs with hones hnone hsmall
  · exact iff_of_false nofun fun h => by omega
  · exact iff_of_false nofun fun h => by omega
  · simp [FloatClass.finite.injEq, hsmall]
  · refine iff_of_false ?_ fun h => hsmall h.1
    rintro ⟨negative, exponent, h⟩
    have hmagnitude := (FloatClass.finite.inj h).2.1
    omega

/-- **A double is empty exactly if it has no magnitude.** -/
theorem beq_zero_iff {x : Float} :
    (x == 0.0) = true
      ↔ ∃ negative exponent, FloatClass.ofFloat x = .finite negative 0 exponent := by
  have hzero : (0.0 : Float).toModel.unpack = .zero .positive := rfl
  show (x.toModel.unpack.compare (0.0 : Float).toModel.unpack == some .eq) = true ↔ _
  rw [hzero, beq_iff_eq, compare_zero_eq, ofFloat_eq_zero]
  exact unpack_eq_zero

end Doubles

namespace FloatClass

variable {negative : Bool} {mantissa : Nat} {exponent n : Int}

/-- The integer that a double equals is what is left without its fraction. -/
theorem truncated_eq (h : (finite negative mantissa exponent).integer? = some n) :
    (finite negative mantissa exponent).truncated = .ok n := by
  rw [integer?] at h
  split at h
  · rw [truncated, Option.some.inj h]
  · exact nomatch h

/-- What has no magnitude equals no integer but zero. -/
theorem integer?_of_zero (h : (finite negative 0 exponent).integer? = some n) : n = 0 := by
  rw [integer?] at h
  split at h
  · have hmagnitude : whole 0 exponent = 0 := by simp [whole]
    rw [hmagnitude] at h
    rw [← Option.some.inj h, signed]
    split <;> rfl
  · exact nomatch h

/-- A double that equals zero has no magnitude. -/
theorem mantissa_eq_zero (h : (finite negative mantissa exponent).integer? = some 0) :
    mantissa = 0 := by
  rw [integer?] at h
  split at h
  · rename_i hwhole
    have hmagnitude : whole mantissa exponent = 0 := by
      have hsigned := Option.some.inj h
      rw [signed] at hsigned
      split at hsigned <;> omega
    rw [isWhole, Bool.or_eq_true, decide_eq_true_iff, beq_iff_eq] at hwhole
    rw [whole] at hmagnitude
    split at hmagnitude
    · exact (Nat.mul_eq_zero.mp hmagnitude).resolve_right (Nat.ne_of_gt (Nat.two_pow_pos _))
    · rename_i hnegative
      have hrest := hwhole.resolve_left hnegative
      rw [← Nat.div_add_mod mantissa (Nat.pow 2 (-exponent).toNat), hmagnitude, hrest]
      rfl
  · exact nomatch h

end FloatClass

-- ── Texts ──────────────────────────────────────────────────────────────────────────

namespace Text

/-- An ASCII digit has its value among the digits of all scripts. -/
theorem digitValue?_of_ascii {c : Char} {d : Nat} (h : asciiDigit? c = some d) :
    digitValue? c = some d := by
  rw [asciiDigit?] at h
  split at h
  · rename_i hdigit
    have hascii : c.toNat < 0x80 := by
      have hle : c.toNat ≤ '9'.toNat := hdigit.2
      exact Nat.lt_of_le_of_lt hle (by decide)
    rw [digitValue?, if_pos hascii, if_pos hdigit]
    exact h
  · exact nomatch h

/-- A run that goes on is a digit and a run. -/
theorem digit_then_run {digit : Option Nat} {run : Option (List Nat)} {ds : List Nat} :
    (do let d ← digit; let ds ← run; return d :: ds) = some ds
      ↔ ∃ d es, digit = some d ∧ run = some es ∧ d :: es = ds := by
  cases digit with
  | none => simp
  | some d => cases run <;> simp

/-- A run of digits is a run of more digits. -/
theorem digitRun?_mono {few many : Char → Option Nat}
    (h : ∀ c d, few c = some d → many c = some d) {cs : List Char} {ds : List Nat}
    (hrun : digitRun? few cs = some ds) : digitRun? many cs = some ds := by
  fun_induction digitRun? few cs generalizing ds with
  | case1 => exact nomatch hrun
  | case2 c =>
      obtain ⟨d, hd, rfl⟩ := Option.map_eq_some_iff.mp hrun
      rw [digitRun?, h c d hd, Option.map_some]
  | case3 c rest ih =>
      obtain ⟨d, es, hd, hes, rfl⟩ := digit_then_run.mp hrun
      rw [digitRun?]
      exact digit_then_run.mpr ⟨d, es, h c d hd, ih hes, rfl⟩
  | case4 c rest hrest hmore ih =>
      obtain ⟨d, es, hd, hes, rfl⟩ := digit_then_run.mp hrun
      rw [digitRun?.eq_4 many c rest hrest hmore]
      exact digit_then_run.mpr ⟨d, es, h c d hd, ih hes, rfl⟩

/-- Every character of a run is a digit, or an underscore. -/
theorem digitRun?_no_point {cs : List Char} {ds : List Nat}
    (hrun : digitRun? digitValue? cs = some ds) : '.' ∉ cs := by
  have hdigit {c : Char} {d : Nat} (hd : digitValue? c = some d) : '.' ≠ c := by
    rintro rfl
    exact nomatch hd
  fun_induction digitRun? digitValue? cs generalizing ds with
  | case1 => exact List.not_mem_nil
  | case2 c =>
      obtain ⟨d, hd, -⟩ := Option.map_eq_some_iff.mp hrun
      exact List.not_mem_cons_of_ne_of_not_mem (hdigit hd) List.not_mem_nil
  | case3 c rest ih =>
      obtain ⟨d, es, hd, hes, -⟩ := digit_then_run.mp hrun
      exact List.not_mem_cons_of_ne_of_not_mem (hdigit hd)
        (List.not_mem_cons_of_ne_of_not_mem (by decide) (ih hes))
  | case4 c rest hrest hmore ih =>
      obtain ⟨d, es, hd, hes, -⟩ := digit_then_run.mp hrun
      exact List.not_mem_cons_of_ne_of_not_mem (hdigit hd) (ih hes)

/-- There is no fraction to drop where there is no point. -/
theorem dropZeroFraction_no_point {cs : List Char} (h : '.' ∉ cs) : dropZeroFraction cs = cs := by
  rw [dropZeroFraction]
  split
  · rename_i front hfront
    have hmem : '.' ∈ cs.reverse.dropWhile (· == '0') := hfront ▸ List.mem_cons_self
    have hdropped := (List.dropWhile_sublist (· == '0')).subset hmem
    exact absurd (List.mem_reverse.mp hdropped) h
  · rfl

/-- **A text that both readers take is the same integer for both.** -/
theorem fieldInt_unique {s : String} {n m : Int} (hfield : fieldInt s = .ok n)
    (hlenient : lenientInt? s = some m) : m = n := by
  rw [lenientInt?] at hlenient
  rw [fieldInt] at hfield
  generalize trim isSpace s.toList = cs at hlenient hfield
  generalize splitSign cs = parts at hlenient hfield
  obtain ⟨negative, digits⟩ := parts
  obtain ⟨ds, hds, hlenient⟩ := Option.bind_eq_some_iff.mp hlenient
  split at hlenient
  · exact nomatch hlenient
  · split at hfield
    · exact nomatch hfield
    · -- All that the lenient way takes are digits, so the field has no fraction to drop.
      dsimp only at hfield
      rw [dropZeroFraction_no_point (digitRun?_no_point hds)] at hfield
      split at hfield
      · rename_i es hes
        have hsame : ds = es := Option.some.inj
          (hds.symm.trans (digitRun?_mono (fun _ _ => digitValue?_of_ascii) hes))
        rw [← Option.some.inj hlenient, ← Except.ok.inj hfield, hsame]
      · exact nomatch hfield

end Text

-- ── Values ─────────────────────────────────────────────────────────────────────────

/-- What an integer field takes of a double has no fraction. -/
theorem wholeFloat_eq_ok {x : Float} {n : Int} (h : Reader.wholeFloat x = .ok n) :
    ∃ negative mantissa exponent, FloatClass.ofFloat x = .finite negative mantissa exponent
      ∧ (FloatClass.finite negative mantissa exponent).integer? = some n := by
  rw [Reader.wholeFloat.eq_def] at h
  split at h
  · rename_i negative mantissa exponent hclass
    refine ⟨negative, mantissa, exponent, hclass, ?_⟩
    split at h
    · exact nomatch h
    · rename_i k hk
      split at h
      · rw [hk, Checked.ok.inj h]
      · exact nomatch h
  · exact nomatch h

/-- What an integer field takes of a text. -/
theorem integer_str_eq_ok {s : String} {n : Int} :
    Reader.integer (.str s) = .ok n ↔ Text.fieldInt s = .ok n := by
  rw [Reader.integer.eq_def]
  dsimp only
  cases Text.fieldInt s with
  | ok k =>
      exact ⟨fun h => congrArg Except.ok (Checked.ok.inj h),
        fun h => congrArg Checked.ok (Except.ok.inj h)⟩
  | error problem => cases problem <;> exact ⟨fun h => (nomatch h), fun h => (nomatch h)⟩

/-- A text that is an integer is not empty. -/
theorem truthy_of_fieldInt {s : String} {n : Int} (h : Text.fieldInt s = .ok n) :
    (Value.str s).truthy = true := by
  have hne : s ≠ "" := by
    rintro rfl
    exact nomatch h
  simpa [Value.truthy] using hne

/-- An integer field and the lenient way take a value for the same integer. -/
theorem lenient_unique {v : Value} {n m : Int} (hfield : Reader.integer v = .ok n)
    (hlenient : lenientInteger v = .ok m) : m = n := by
  cases v with
  | bool b => exact (Except.ok.inj hlenient).symm.trans (Checked.ok.inj hfield)
  | int k => exact (Except.ok.inj hlenient).symm.trans (Checked.ok.inj hfield)
  | float x =>
      obtain ⟨negative, mantissa, exponent, hclass, hinteger⟩ := wholeFloat_eq_ok hfield
      rw [lenientInteger, hclass, FloatClass.truncated_eq hinteger] at hlenient
      exact (Except.ok.inj hlenient).symm
  | str s =>
      rw [lenientInteger.eq_def] at hlenient
      dsimp only at hlenient
      split at hlenient
      · rename_i k hk
        rw [← Except.ok.inj hlenient]
        exact Text.fieldInt_unique (integer_str_eq_ok.mp hfield) hk
      · exact nomatch hlenient
  | _ => exact nomatch hfield

/-- What is empty is zero for a field that takes it. -/
theorem integer_of_empty {v : Value} {n : Int} (hfield : Reader.integer v = .ok n)
    (hempty : v.truthy = false) : n = 0 := by
  cases v with
  | bool b =>
      obtain rfl : b = false := hempty
      exact (Checked.ok.inj hfield).symm
  | int k =>
      have hzero : k = 0 := by simpa [Value.truthy] using hempty
      exact (Checked.ok.inj hfield).symm.trans hzero
  | float x =>
      have hzero : (x == 0.0) = true := by simpa [Value.truthy] using hempty
      obtain ⟨_, _, _, hclass, hinteger⟩ := wholeFloat_eq_ok hfield
      obtain ⟨negative, exponent, hnone⟩ := beq_zero_iff.mp hzero
      obtain ⟨rfl, rfl, rfl⟩ := FloatClass.finite.inj (hclass.symm.trans hnone)
      exact FloatClass.integer?_of_zero hinteger
  | str s =>
      obtain rfl : s = "" := by simpa [Value.truthy] using hempty
      exact nomatch hfield
  | _ => exact nomatch hfield

/-- **An integer field and a count take a value for the same integer**, if both take it. -/
theorem integer_unique {v : Value} {n m : Int} (hfield : Reader.integer v = .ok n)
    (hcount : countOrZero v = .ok m) : m = n := by
  rw [countOrZero] at hcount
  split at hcount
  · exact lenient_unique hfield hcount
  · rename_i hempty
    rw [integer_of_empty hfield (Bool.eq_false_iff.mpr hempty)]
    exact (Except.ok.inj hcount).symm

/-- An integer counts as it stands. -/
theorem countOrZero_int (n : Int) : countOrZero (.int n) = .ok n := by
  by_cases h : n = 0
  · subst h; rfl
  · rw [countOrZero, if_pos (by simp [Value.truthy, h])]; rfl

/-- **A zero that is not empty is a text.** -/
theorem text_of_zero {v : Value} (hfield : Reader.integer v = .ok 0) (hgiven : v.truthy = true) :
    ∃ s, v = .str s := by
  cases v with
  | bool b =>
      obtain rfl : b = true := hgiven
      exact nomatch hfield
  | int k =>
      obtain rfl := Checked.ok.inj hfield
      exact nomatch hgiven
  | float x =>
      obtain ⟨negative, mantissa, exponent, hclass, hinteger⟩ := wholeFloat_eq_ok hfield
      obtain rfl := FloatClass.mantissa_eq_zero hinteger
      have hzero := beq_zero_iff.mpr ⟨negative, exponent, hclass⟩
      rw [Value.truthy, hzero] at hgiven
      exact nomatch hgiven
  | str s => exact ⟨s, rfl⟩
  | _ => exact nomatch hfield

end CompletionStream
