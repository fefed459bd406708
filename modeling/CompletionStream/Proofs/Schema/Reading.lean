import CompletionStream.Chat.Request

/-!
# Reading — when a reading goes well

A reading of several fields goes well exactly if the reading of each of them does, and then it
gives what the fields give.  These lemmas say so for each way in which readings are put
together, so that a record can be read from its fields and taken apart into them again.  What
is written and read again comes back as it was.
-/

namespace CompletionStream

namespace Checked

variable {α β : Type}

@[simp] theorem map_eq_ok {f : α → β} {a : Checked α} {b : β} :
    (f <$> a) = .ok b ↔ ∃ x, a = .ok x ∧ f x = b := by
  cases a with
  | ok x =>
      constructor
      · intro h
        exact ⟨x, rfl, Checked.ok.inj h⟩
      · rintro ⟨y, ⟨⟩, rfl⟩
        rfl
  | misfit details => exact ⟨fun h => (nomatch h), fun ⟨_, h, _⟩ => (nomatch h)⟩
  | abandoned fault => exact ⟨fun h => (nomatch h), fun ⟨_, h, _⟩ => (nomatch h)⟩

@[simp] theorem seq_eq_ok {f : Checked (α → β)} {a : Checked α} {b : β} :
    (f <*> a) = .ok b ↔ ∃ g x, f = .ok g ∧ a = .ok x ∧ g x = b := by
  constructor
  · intro h
    cases f with
    | ok g =>
        cases a with
        | ok x => exact ⟨g, x, rfl, rfl, Checked.ok.inj h⟩
        | _ => exact nomatch h
    | _ => cases a <;> exact nomatch h
  · rintro ⟨g, x, rfl, rfl, rfl⟩
    rfl

@[simp] theorem under_eq_ok {step : Locator} {a : Checked α} {x : α} :
    a.under step = .ok x ↔ a = .ok x := by
  cases a with
  | ok y => exact Iff.rfl
  | _ => exact ⟨fun h => (nomatch h), fun h => (nomatch h)⟩

@[simp] theorem andThen_eq_ok {a : Checked α} {f : α → Checked β} {b : β} :
    a.andThen f = .ok b ↔ ∃ x, a = .ok x ∧ f x = .ok b := by
  cases a with
  | ok x =>
      constructor
      · intro h
        exact ⟨x, rfl, h⟩
      · rintro ⟨y, ⟨⟩, h⟩
        exact h
  | misfit details => exact ⟨fun h => (nomatch h), fun ⟨_, h, _⟩ => (nomatch h)⟩
  | abandoned fault => exact ⟨fun h => (nomatch h), fun ⟨_, h, _⟩ => (nomatch h)⟩

@[simp] theorem toOutcome_eq_ok {a : Checked α} {x : α} : a.toOutcome = .ok x ↔ a = .ok x := by
  cases a with
  | ok y => exact ⟨fun h => congrArg Checked.ok (Except.ok.inj h),
      fun h => congrArg Except.ok (Checked.ok.inj h)⟩
  | _ => exact ⟨fun h => (nomatch h), fun h => (nomatch h)⟩

end Checked

namespace Reader

variable {α : Type}

/-- A record is read from members. -/
theorem record_eq_ok {read : Members → Checked α} {v : Value} {a : α} :
    record read v = .ok a ↔ ∃ m : Members, v = .dict m ∧ read m = .ok a := by
  cases v with
  | dict m =>
      constructor
      · intro h
        exact ⟨m, rfl, h⟩
      · rintro ⟨n, ⟨⟩, h⟩
        exact h
  | _ => exact ⟨fun h => (nomatch h), fun ⟨_, h, _⟩ => (nomatch h)⟩

/-- A field with a default is read from its member, or there is none and it is the default. -/
theorem of_optional {m : Members} {name : String} {read : Reader α} {default a : α}
    (h : optional m name read default = .ok a) :
    read (m.getOrNull name) = .ok a ∨ (m.getOrNull name = .null ∧ default = a) := by
  rw [optional] at h
  rw [Members.getOrNull]
  cases hgiven : m.get? name with
  | none =>
      rw [hgiven] at h
      exact Or.inr ⟨rfl, Checked.ok.inj h⟩
  | some v =>
      rw [hgiven] at h
      exact Or.inl (Checked.under_eq_ok.mp h)

theorem nullable_of_ne_null (read : Reader α) {v : Value} (h : v ≠ .null) :
    nullable read v = Checked.map some (read v) := by
  cases v with
  | null => exact absurd rfl h
  | _ => rfl

/-- What is read under an option is read from the value itself. -/
theorem nullable_eq_some {read : Reader α} {v : Value} {a : α}
    (h : nullable read v = .ok (some a)) : read v = .ok a := by
  by_cases hnull : v = .null
  · rw [hnull] at h
    exact nomatch h
  · rw [nullable_of_ne_null read hnull] at h
    cases hread : read v with
    | ok b =>
        rw [hread] at h
        exact congrArg Checked.ok (Option.some.inj (Checked.ok.inj h))
    | _ =>
        rw [hread] at h
        exact nomatch h

/-- What was written and is read differently is read so under an option, too. -/
theorem nullable_ofOption_map {read : Reader α} {write : α → Value} {again : α → α}
    (hread : ∀ a, read (write a) = .ok (again a)) (hwrite : ∀ a, write a ≠ .null)
    (given : Option α) : nullable read (.ofOption write given) = .ok (given.map again) := by
  cases given with
  | none => rfl
  | some a =>
      rw [Value.ofOption, nullable_of_ne_null read (hwrite a), hread]
      rfl

/-- What was written is read back, null where nothing was written. -/
theorem nullable_ofOption {read : Reader α} {write : α → Value}
    (hread : ∀ a, read (write a) = .ok a) (hwrite : ∀ a, write a ≠ .null) (given : Option α) :
    nullable read (.ofOption write given) = .ok given := by
  have hid (a : α) : read (write a) = .ok (id a) := hread a
  rw [nullable_ofOption_map hid hwrite, Option.map_id]
  rfl

theorem nullable_text (given : Option String) :
    nullable text (.ofOption .str given) = .ok given := by
  apply nullable_ofOption
  · exact fun _ => rfl
  · exact fun _ h => nomatch h

theorem nullable_integer (given : Option Int) :
    nullable integer (.ofOption .int given) = .ok given := by
  apply nullable_ofOption
  · exact fun _ => rfl
  · exact fun _ h => nomatch h

/-- Items are read back as they were written. -/
theorem tupleOf_written {read : Reader α} {write : α → Value}
    (hread : ∀ a, read (write a) = .ok a) (as : List α) :
    tupleOf read (.tuple (as.map write)) = .ok as := by
  have hitems (start : Nat) : itemsFrom read start (as.map write) = .ok as := by
    induction as generalizing start with
    | nil => rfl
    | cons a rest ih =>
        rw [List.map_cons, itemsFrom, List.zipIdx_cons, List.map_cons, Checked.all]
        change Checked.apply _ (itemsFrom read (start + 1) (rest.map write)) = _
        dsimp only
        rw [ih, hread]
        rfl
  exact hitems 0

/-- Texts are read back as they were written. -/
theorem tupleOf_textTuple (texts : List String) :
    tupleOf text (textTuple texts) = .ok texts := by
  have htext (s : String) : text (.str s) = .ok s := rfl
  exact tupleOf_written htext texts

/-- The bias of tokens is read back as it was written. -/
theorem readBias_biasValue (bias : List (String × Int)) :
    readBias (biasValue bias) = .ok bias := by
  rw [biasValue, Value.object, readBias, mappingOf]
  induction bias with
  | nil => rfl
  | cons entry rest ih =>
      rw [List.map_cons, List.map_cons, List.map_cons, Checked.all, ih]
      rfl

theorem nullable_textTuple (given : Option (List String)) :
    nullable (tupleOf text) (.ofOption textTuple given) = .ok given := by
  apply nullable_ofOption
  · exact tupleOf_textTuple
  · exact fun _ h => nomatch h

theorem nullable_biasValue (given : Option (List (String × Int))) :
    nullable readBias (.ofOption biasValue given) = .ok given := by
  apply nullable_ofOption
  · exact readBias_biasValue
  · exact fun _ h => nomatch h

end Reader

end CompletionStream
