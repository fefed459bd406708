import CompletionStream.Proofs.Document.Mappings
import CompletionStream.Proofs.Schema.Integers
import CompletionStream.Proofs.Schema.Reading

/-!
# Usage — what the counts of a usage are read from

Counts are read from members, and the total is looked at first.  If the members tell one, they
are read as they stand (`read_told`); if not, the parts are summed up and the sum is put in its
place (`read_untold`).  Nothing else can happen, so these two say all that a reading comes to.

The parts are read twice then, once for the sum and once for the fields, and both times as the
same integer (`count_eq_of_optional`).  So the total of a usage that was told none is the sum of
its parts (`read_untold_iff`), and a total of zero that is not the sum was told as a text
(`total_zero_iff`).
-/

namespace CompletionStream

namespace TokenUsage

variable {m filled : Members} {u : TokenUsage} {v : Value}

/-- Counts are read from members with a total, field by field. -/
theorem read_eq_ok : read v = .ok u ↔ ∃ m filled : Members, v = .dict m ∧ fill m = .ok filled
    ∧ Reader.optional filled "input_tokens" .integer 0 = .ok u.inputTokens
    ∧ Reader.optional filled "output_tokens" .integer 0 = .ok u.outputTokens
    ∧ Reader.optional filled "total_tokens" .integer 0 = .ok u.totalTokens := by
  have hfields (filled : Members) : (TokenUsage.mk
      <$> Reader.optional filled "input_tokens" .integer 0
      <*> Reader.optional filled "output_tokens" .integer 0
      <*> Reader.optional filled "total_tokens" .integer 0) = .ok u
        ↔ Reader.optional filled "input_tokens" .integer 0 = .ok u.inputTokens
          ∧ Reader.optional filled "output_tokens" .integer 0 = .ok u.outputTokens
          ∧ Reader.optional filled "total_tokens" .integer 0 = .ok u.totalTokens := by
    constructor
    · intro h
      obtain ⟨g, total, hg, htotal, rfl⟩ := Checked.seq_eq_ok.mp h
      obtain ⟨f, output, hf, houtput, rfl⟩ := Checked.seq_eq_ok.mp hg
      obtain ⟨input, hinput, rfl⟩ := Checked.map_eq_ok.mp hf
      exact ⟨hinput, houtput, htotal⟩
    · rintro ⟨hinput, houtput, htotal⟩
      rw [hinput, houtput, htotal]
      rfl
  rw [read, Reader.record_eq_ok]
  simp only [Checked.andThen_eq_ok, hfields]
  constructor
  · rintro ⟨m, hv, filled, hfill, hread⟩
    exact ⟨m, filled, hv, hfill, hread⟩
  · rintro ⟨m, filled, hv, hfill, hread⟩
    exact ⟨m, hv, filled, hfill, hread⟩

/-- The sum of the parts, each counted. -/
theorem rawTotal_eq_ok {t : Int} : rawTotal m = .ok t
    ↔ ∃ i o, countOrZero (m.getOrNull "input_tokens") = .ok i
        ∧ countOrZero (m.getOrNull "output_tokens") = .ok o ∧ i + o = t := by
  simp only [rawTotal, Outcome.bind_eq_ok]
  constructor
  · rintro ⟨i, hi, o, ho, hsum⟩
    exact ⟨i, o, hi, ho, Except.ok.inj hsum⟩
  · rintro ⟨i, o, hi, ho, rfl⟩
    exact ⟨i, hi, o, ho, rfl⟩

/-- A total that is told stays. -/
theorem fill_told (h : (m.getOrNull "total_tokens").truthy = true) : fill m = .ok m := by
  rw [fill, if_pos h]

/-- A total that is not told becomes the sum, if there is one. -/
theorem fill_untold (h : (m.getOrNull "total_tokens").truthy = false) :
    fill m = .ok filled
      ↔ ∃ t, rawTotal m = .ok t ∧ m.set "total_tokens" (.int t) = filled := by
  rw [fill, h, if_neg Bool.false_ne_true]
  cases hraw : rawTotal m with
  | ok t => simp
  | error fault =>
      dsimp only
      split
      · simp [Checked.problem]
      · simp

/-- A field that was set is read from what it was set to, the others as before. -/
theorem optional_set {α : Type} (m : Members) (name other : String) (v : Value)
    (read : Reader α) (default : α) :
    Reader.optional (m.set name v) other read default
      = if name = other then (read v).under (.name other)
        else Reader.optional m other read default := by
  rw [Reader.optional, Members.get?_set, Reader.optional]
  by_cases h : name = other
  · rw [if_pos h, if_pos h]
  · rw [if_neg h, if_neg h]

/-- A field that is told is read from what it is told. -/
theorem optional_told {α : Type} {name : String} (h : (m.getOrNull name).truthy = true)
    (read : Reader α) (default : α) :
    Reader.optional m name read default = (read (m.getOrNull name)).under (.name name) := by
  rw [Members.getOrNull] at h ⊢
  rw [Reader.optional]
  cases hgiven : m.get? name with
  | none =>
      rw [hgiven] at h
      exact absurd h Bool.false_ne_true
  | some v => rfl

/-- **A usage that is told its total** is read as it stands. -/
theorem read_told (h : (m.getOrNull "total_tokens").truthy = true) :
    read (.dict m) = .ok u
      ↔ Reader.optional m "input_tokens" .integer 0 = .ok u.inputTokens
        ∧ Reader.optional m "output_tokens" .integer 0 = .ok u.outputTokens
        ∧ Reader.optional m "total_tokens" .integer 0 = .ok u.totalTokens := by
  rw [read_eq_ok]
  constructor
  · rintro ⟨_, filled, ⟨⟩, hfill, hread⟩
    obtain rfl := Checked.ok.inj ((fill_told h).symm.trans hfill)
    exact hread
  · intro hread
    exact ⟨m, m, rfl, fill_told h, hread⟩

/-- **A usage that is not told its total** has the sum of its parts as they are counted. -/
theorem read_untold (h : (m.getOrNull "total_tokens").truthy = false) :
    read (.dict m) = .ok u
      ↔ Reader.optional m "input_tokens" .integer 0 = .ok u.inputTokens
        ∧ Reader.optional m "output_tokens" .integer 0 = .ok u.outputTokens
        ∧ rawTotal m = .ok u.totalTokens := by
  have hinput (t : Int) := optional_set m "total_tokens" "input_tokens" (.int t) .integer 0
  have houtput (t : Int) := optional_set m "total_tokens" "output_tokens" (.int t) .integer 0
  have htotal (t : Int) := optional_set m "total_tokens" "total_tokens" (.int t) .integer 0
  rw [read_eq_ok]
  constructor
  · rintro ⟨_, filled, ⟨⟩, hfill, hread⟩
    obtain ⟨t, hraw, rfl⟩ := (fill_untold h).mp hfill
    rw [hinput, houtput, htotal] at hread
    obtain ⟨hi, ho, ht⟩ := hread
    exact ⟨hi, ho, hraw.trans (congrArg Except.ok (Checked.ok.inj ht))⟩
  · rintro ⟨hi, ho, hraw⟩
    refine ⟨m, _, rfl, (fill_untold h).mpr ⟨_, hraw, rfl⟩, ?_⟩
    rw [hinput, houtput, htotal]
    exact ⟨hi, ho, rfl⟩

/-- The integer of a part is its count. -/
theorem count_eq_of_optional {name : String} {n k : Int}
    (hfield : Reader.optional m name .integer 0 = .ok n)
    (hcount : countOrZero (m.getOrNull name) = .ok k) : k = n := by
  obtain hread | ⟨hnull, rfl⟩ := Reader.of_optional hfield
  · exact integer_unique hread hcount
  · rw [hnull] at hcount
    exact (Except.ok.inj hcount).symm

/-- **A usage that is not told its total has the sum of what is stored.**  It can be built if
    the parts fit their fields and can be counted, too. -/
theorem read_untold_iff (h : (m.getOrNull "total_tokens").truthy = false) :
    read (.dict m) = .ok u
      ↔ Reader.optional m "input_tokens" .integer 0 = .ok u.inputTokens
        ∧ Reader.optional m "output_tokens" .integer 0 = .ok u.outputTokens
        ∧ (∃ t, rawTotal m = .ok t) ∧ u.totalTokens = u.inputTokens + u.outputTokens := by
  rw [read_untold h]
  refine and_congr_right fun hinput => and_congr_right fun houtput => ?_
  have hsum {t : Int} (hraw : rawTotal m = .ok t) : t = u.inputTokens + u.outputTokens := by
    obtain ⟨i, o, hi, ho, rfl⟩ := rawTotal_eq_ok.mp hraw
    rw [count_eq_of_optional hinput hi, count_eq_of_optional houtput ho]
  constructor
  · intro hraw
    exact ⟨⟨_, hraw⟩, hsum hraw⟩
  · rintro ⟨⟨t, hraw⟩, htotal⟩
    rw [htotal, ← hsum hraw]
    exact hraw

theorem total_of_untold (h : (m.getOrNull "total_tokens").truthy = false)
    (hread : read (.dict m) = .ok u) : u.totalTokens = u.inputTokens + u.outputTokens :=
  ((read_untold_iff h).mp hread).2.2.2

/-- The data tells its total as a text, and the text says zero. -/
def ZeroInWords (v : Value) : Prop :=
  ∃ s, v.member "total_tokens" = .str s ∧ Text.fieldInt s = .ok 0

/-- **A total of zero that is not the sum was told as a text.** -/
theorem total_zero_iff (hread : read v = .ok u) (hsum : u.inputTokens + u.outputTokens ≠ 0) :
    u.totalTokens = 0 ↔ ZeroInWords v := by
  obtain ⟨m, -, rfl, -⟩ := read_eq_ok.mp hread
  constructor
  · intro hzero
    cases htold : (m.getOrNull "total_tokens").truthy with
    | false => exact absurd ((total_of_untold htold hread).symm.trans hzero) hsum
    | true =>
        obtain ⟨-, -, htotal⟩ := (read_told htold).mp hread
        -- A number that is zero would be empty, and the total would not be told.
        rw [optional_told htold, Checked.under_eq_ok, hzero] at htotal
        obtain ⟨s, hs⟩ := text_of_zero htotal htold
        rw [hs] at htotal
        exact ⟨s, hs, integer_str_eq_ok.mp htotal⟩
  · rintro ⟨s, hs, hzero⟩
    have htold : (m.getOrNull "total_tokens").truthy = true :=
      (congrArg Value.truthy hs).trans (truthy_of_fieldInt hzero)
    obtain ⟨-, -, htotal⟩ := (read_told htold).mp hread
    have hword : m.getOrNull "total_tokens" = .str s := hs
    rw [optional_told htold, Checked.under_eq_ok, hword, integer_str_eq_ok, hzero] at htotal
    exact (Except.ok.inj htotal).symm

end TokenUsage

end CompletionStream
