import CompletionStream.Settings.Environment

/-!
# Variables — what a change of the environment cannot reach

Two environments that are the same but for the variables of some names give the same wherever
none of these names is asked for.  For a variable that is asked for by its exact name this is
`SameBut.get?`.  All others are looked up in the folded environment, where a variable stands
under its name in lower case: folding commutes with leaving variables out (`folded_filter`), so
the folded environments are the same but for the names in lower case.  From this follow the
look-up whatever the letter case, what the environment gives for a group as a whole, and what it
gives for a field.
-/

namespace CompletionStream.Settings

namespace Environment

/-- Two environments that differ at most in the variables of these names. -/
def SameBut (names : List String) (env env' : Environment) : Prop :=
  List.filter (fun v => !names.contains v.1) env = List.filter (fun v => !names.contains v.1) env'

-- ── Folding and leaving out ────────────────────────────────────────────────────────

theorem filter_insert (keep : String → Bool) (name value : String)
    (seen : List (String × String)) :
    (folded.insert name value seen).filter (fun v => keep v.1)
      = if keep name then folded.insert name value (seen.filter fun v => keep v.1)
        else seen.filter fun v => keep v.1 := by
  induction seen with
  | nil => cases hkeep : keep name <;> simp [folded.insert, hkeep]
  | cons first rest ih =>
      obtain ⟨n, old⟩ := first
      by_cases hname : n = name
      · subst hname
        cases hkeep : keep n <;> simp [folded.insert, hkeep]
      · cases hn : keep n
        · simp only [folded.insert, if_neg hname, List.filter_cons, hn]
          exact ih
        · simp only [folded.insert, if_neg hname, List.filter_cons, hn, if_true, ih]
          cases keep name
          · rfl
          · rfl

theorem filter_foldl_insert (keep : String → Bool) (env : Environment)
    (seen : List (String × String)) :
    (List.foldl (fun seen (name, value) => folded.insert (Text.lower name) value seen)
        seen env).filter (fun v => keep v.1)
      = List.foldl (fun seen (name, value) => folded.insert (Text.lower name) value seen)
          (seen.filter fun v => keep v.1)
          (List.filter (fun v => keep (Text.lower v.1)) env) := by
  induction env generalizing seen with
  | nil => rfl
  | cons first rest ih =>
      obtain ⟨name, value⟩ := first
      rw [List.foldl_cons, ih, filter_insert, List.filter_cons]
      cases hkeep : keep (Text.lower name)
      · rfl
      · rfl

/-- **Folding commutes with leaving out** variables by their names in lower case. -/
theorem folded_filter (keep : String → Bool) (env : Environment) :
    (folded env).filter (fun v => keep v.1)
      = folded (List.filter (fun v => keep (Text.lower v.1)) env) :=
  filter_foldl_insert keep env []

/-- A search among those that are kept finds the same, if it looks for one of them. -/
theorem find?_filter_of_imp {α : Type} {keep found : α → Bool} (l : List α)
    (h : ∀ a, found a = true → keep a = true) : (l.filter keep).find? found = l.find? found := by
  rw [List.find?_filter]
  congr 1
  funext a
  cases hfound : found a
  · simp
  · simp [h a hfound]

/-- A search finds the same with what finds the same in each place. -/
theorem findSome?_congr {α β : Type} {f g : α → Option β} {l : List α}
    (h : ∀ a ∈ l, f a = g a) : l.findSome? f = l.findSome? g := by
  induction l with
  | nil => rfl
  | cons a rest ih =>
      rw [List.findSome?_cons, List.findSome?_cons, h a List.mem_cons_self,
        ih fun a ha => h a (List.mem_cons_of_mem _ ha)]

-- ── Environments that are the same but for some variables ──────────────────────────

namespace SameBut

variable {names : List String} {env env' : Environment}

/-- Variables of other names have the same value. -/
theorem get? (h : SameBut names env env') {name : String} (hname : name ∉ names) :
    env.get? name = env'.get? name := by
  have hkept (v : String × String) (hv : (v.1 == name) = true) :
      (!names.contains v.1) = true := by
    rw [beq_iff_eq.mp hv]
    simpa using hname
  rw [Environment.get?, Environment.get?, ← find?_filter_of_imp env hkept,
    ← find?_filter_of_imp env' hkept, h]

/-- The folded environments are the same but for the names in lower case. -/
theorem folded_filter_eq (h : SameBut names env env') (keep : String → Bool)
    (hkeep : ∀ name ∈ names, keep (Text.lower name) = false) :
    env.folded.filter (fun v => keep v.1) = env'.folded.filter (fun v => keep v.1) := by
  have hthrough (env : Environment) :
      List.filter (fun v => keep (Text.lower v.1)) env
        = List.filter (fun v => keep (Text.lower v.1))
            (List.filter (fun v => !names.contains v.1) env) := by
    rw [List.filter_filter]
    congr 1
    funext v
    cases hv : keep (Text.lower v.1)
    · rfl
    · have hother : v.1 ∉ names := fun hmem => by
        rw [hkeep v.1 hmem] at hv
        exact Bool.false_ne_true hv
      simpa using hother
  rw [folded_filter, folded_filter, hthrough env, hthrough env', h]

/-- Variables of other names have the same value whatever the letter case. -/
theorem find? (h : SameBut names env env') {name : String}
    (hname : ∀ other ∈ names, Text.lower other ≠ Text.lower name) :
    env.find? name = env'.find? name := by
  have hkeep : ∀ other ∈ names, (Text.lower other == Text.lower name) = false :=
    fun other hother => by simpa using hname other hother
  have hsame := h.folded_filter_eq (· == Text.lower name) hkeep
  rw [Environment.find?, Environment.find?, ← find?_filter_of_imp env.folded fun _ hv => hv,
    ← find?_filter_of_imp env'.folded fun _ hv => hv, hsame]

end SameBut

end Environment

namespace Group

variable {names : List String} {env env' : Environment} (group : Group)

/-- No variable of these names speaks of the group as a whole. -/
def Unnamed (names : List String) : Prop :=
  ∀ name ∈ names, Text.lower name ≠ Text.lower group.name ∧
    (Text.lower name).startsWith (group.name ++ "__") = false

/-- Only the variables whose names start as the group's do are walked through. -/
theorem nested_eq_foldlM (env : Environment) :
    group.nested env
      = (env.folded.filter fun v => v.1.startsWith (group.name ++ "__")).foldlM
          (fun members (name, text) => do
            let path := (name.drop (group.name ++ "__").length).toString.splitOn "__"
            return fileUnder path (← group.nestedValue path text) members) [] := by
  rw [List.foldlM_filter]
  rfl

theorem nested_sameBut (h : Environment.SameBut names env env') (hnames : group.Unnamed names) :
    group.nested env = group.nested env' := by
  rw [nested_eq_foldlM, nested_eq_foldlM,
    h.folded_filter_eq (fun name => name.startsWith (group.name ++ "__"))
      fun name hname => (hnames name hname).2]

/-- What the environment gives for a group as a whole. -/
theorem wholeFrom_sameBut (h : Environment.SameBut names env env')
    (hnames : group.Unnamed names) : group.wholeFrom env = group.wholeFrom env' := by
  rw [wholeFrom, wholeFrom, h.find? fun name hname => (hnames name hname).1,
    group.nested_sameBut h hnames]

/-- What the environment gives for a field. -/
theorem fieldFrom_sameBut (h : Environment.SameBut names env env') {field : Field}
    (hfield : ∀ spelled ∈ group.fieldVariables field, ∀ name ∈ names,
      Text.lower name ≠ Text.lower spelled.2) :
    group.fieldFrom env field = group.fieldFrom env' field := by
  rw [fieldFrom, fieldFrom]
  congr 1
  refine Environment.findSome?_congr fun spelled hspelled => ?_
  obtain ⟨name, variableName⟩ := spelled
  dsimp only
  rw [h.find? (hfield _ hspelled)]

end Group

end CompletionStream.Settings
