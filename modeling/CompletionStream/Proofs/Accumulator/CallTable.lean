import CompletionStream.Proofs.Accumulator.Reference

/-!
# The call table — fragments of one index make one call

Fragments arrive in any interleaving.  The table is read through `at?`, which gives the parts
at one index:

* feeding a fragment changes the parts at its own index and at no other (`at?_feed`), provided
  the indexes ascend, and they keep ascending (`ascending_feed`);
* so after a fold the parts at an index are those of the index's own fragments, in the order
  of their arrival, whatever came between them (`at?_foldl`);
* and the calls that are built are the reference's (`build_foldl`).
-/

namespace CompletionStream

-- ── Keeping the last that is given ─────────────────────────────────────────────────

theorem newer_eq_or (latest previous : Option String) :
    newer latest previous = (spoken latest).or previous := by
  cases latest with
  | none => rfl
  | some s =>
      by_cases h : s = ""
      · simp [newer, spoken, Option.filter, h]
      · simp [newer, spoken, Option.filter, h]

/-- Replacing what was kept by whatever is given leaves the last that was given. -/
theorem foldl_or {α β : Type} (f : α → Option β) (items : List α) (kept : Option β) :
    items.foldl (fun kept a => (f a).or kept) kept = ((items.filterMap f).getLast?).or kept := by
  induction items generalizing kept with
  | nil => rfl
  | cons a rest ih =>
      rw [List.foldl_cons, ih]
      cases h : f a with
      | none => rw [List.filterMap_cons_none h]; rfl
      | some b =>
          rw [List.filterMap_cons_some h, List.getLast?_cons]
          cases ((rest.filterMap f).getLast?) <;> rfl

/-- The running value of `newer` is the last text that says something. -/
theorem foldl_newer {α : Type} (f : α → Option String) (items : List α)
    (kept : Option String) :
    items.foldl (fun kept a => newer (f a) kept) kept
      = (lastSpoken (items.map f)).or kept := by
  have h : (fun kept a => newer (f a) kept)
      = fun (kept : Option String) a => (spoken (f a)).or kept := by
    funext kept a
    exact newer_eq_or (f a) kept
  rw [h, foldl_or, lastSpoken, List.filterMap_map]
  rfl

theorem lastSpoken_isSome {texts : List (Option String)} :
    (lastSpoken texts).isSome ↔ ∃ t ∈ texts, (spoken t).isSome := by
  rw [lastSpoken, List.getLast?_isSome]
  constructor
  · intro h
    obtain ⟨s, hs⟩ := List.exists_mem_of_ne_nil _ h
    obtain ⟨t, ht, hspoken⟩ := List.mem_filterMap.mp hs
    exact ⟨t, ht, by rw [hspoken]; rfl⟩
  · rintro ⟨t, ht, hspoken⟩
    obtain ⟨s, hs⟩ := Option.isSome_iff_exists.mp hspoken
    exact List.ne_nil_of_mem (List.mem_filterMap.mpr ⟨t, ht, hs⟩)

/-- A call has the last name that is said at its index. -/
theorem Reference.call_name {ds : List ToolCallDelta} {i : Int} (h : i ∈ indexes ds) :
    some (call ds i).name = lastSpoken ((fragments ds i).map (·.name)) := by
  obtain ⟨d, hd, hindex, hname⟩ := mem_indexes.mp h
  have hsome : (lastSpoken ((fragments ds i).map (·.name))).isSome := by
    refine lastSpoken_isSome.mpr ⟨d.name, List.mem_map_of_mem ?_, hname⟩
    exact List.mem_filter.mpr ⟨hd, decide_eq_true hindex⟩
  obtain ⟨name, hlast⟩ := Option.isSome_iff_exists.mp hsome
  rw [call, parts, hlast]
  rfl

namespace CallParts

/-- Fragments of one call, taken in one after the other. -/
theorem foldl_feed (ds : List ToolCallDelta) (p : CallParts) :
    ds.foldl feed p
      = { id := (lastSpoken (ds.map (·.id))).or p.id
          name := (lastSpoken (ds.map (·.name))).or p.name
          arguments := p.arguments ++ String.join (ds.map (·.arguments)) } := by
  rw [← foldl_newer, ← foldl_newer]
  induction ds generalizing p with
  | nil => simp
  | cons d rest ih => simp [ih, feed, String.append_assoc]

end CallParts

namespace CallTable

/-- The parts at an index. -/
def at? (table : CallTable) (i : Int) : Option CallParts :=
  match table with
  | [] => none
  | (index, parts) :: rest => if i = index then some parts else at? rest i

/-- The indexes of a table ascend strictly. -/
def Ascending (table : CallTable) : Prop :=
  (table.map Prod.fst).Pairwise (· < ·)

theorem at?_cons (index : Int) (parts : CallParts) (rest : CallTable) (i : Int) :
    at? ((index, parts) :: rest) i = if i = index then some parts else at? rest i := rfl

theorem ascending_nil : Ascending [] := List.Pairwise.nil

theorem ascending_cons {index : Int} {parts : CallParts} {rest : CallTable} :
    Ascending ((index, parts) :: rest)
      ↔ (∀ entry ∈ rest, index < entry.1) ∧ Ascending rest := by
  simp [Ascending, List.pairwise_cons]

theorem at?_eq_none {table : CallTable} {i : Int} (h : ∀ entry ∈ table, i < entry.1) :
    at? table i = none := by
  induction table with
  | nil => rfl
  | cons entry rest ih =>
      obtain ⟨index, parts⟩ := entry
      have hlt : i < index := h (index, parts) (List.mem_cons_self ..)
      rw [at?_cons, if_neg (by omega)]
      exact ih fun entry hentry => h entry (List.mem_cons_of_mem _ hentry)

/-- In an ascending table the entries are what `at?` reads. -/
theorem mem_iff_at? {table : CallTable} (h : Ascending table) (i : Int) (p : CallParts) :
    (i, p) ∈ table ↔ at? table i = some p := by
  induction table with
  | nil => simp [at?]
  | cons entry rest ih =>
      obtain ⟨index, parts⟩ := entry
      obtain ⟨hlt, hrest⟩ := ascending_cons.mp h
      rw [at?_cons]
      by_cases hi : i = index
      · subst hi
        rw [if_pos rfl]
        constructor
        · intro hmem
          rcases List.mem_cons.mp hmem with heq | hmem
          · rw [(Prod.mk.inj heq).2]
          · exact absurd (hlt (i, p) hmem) (by simp)
        · intro heq
          rw [Option.some.inj heq]
          exact List.mem_cons_self ..
      · rw [if_neg hi, ← ih hrest]
        constructor
        · intro hmem
          rcases List.mem_cons.mp hmem with heq | hmem
          · exact absurd (Prod.mk.inj heq).1 hi
          · exact hmem
        · exact List.mem_cons_of_mem _

-- ── One fragment ───────────────────────────────────────────────────────────────────

/-- Feeding adds no index but the fragment's own. -/
theorem mem_feed {table : CallTable} {d : ToolCallDelta} {entry : Int × CallParts}
    (h : entry ∈ feed table d) : entry.1 = d.index ∨ ∃ e ∈ table, e.1 = entry.1 := by
  induction table with
  | nil =>
      rw [feed, List.mem_singleton] at h
      exact Or.inl (by rw [h])
  | cons head rest ih =>
      obtain ⟨index, parts⟩ := head
      rw [feed] at h
      by_cases heq : d.index = index
      · rw [if_pos heq] at h
        rcases List.mem_cons.mp h with rfl | hmem
        · exact Or.inl heq.symm
        · exact Or.inr ⟨entry, List.mem_cons_of_mem _ hmem, rfl⟩
      · rw [if_neg heq] at h
        by_cases hlt : d.index < index
        · rw [if_pos hlt] at h
          rcases List.mem_cons.mp h with rfl | hmem
          · exact Or.inl rfl
          · exact Or.inr ⟨entry, hmem, rfl⟩
        · rw [if_neg hlt] at h
          rcases List.mem_cons.mp h with rfl | hmem
          · exact Or.inr ⟨(index, parts), List.mem_cons_self .., rfl⟩
          · rcases ih hmem with hnew | ⟨e, he, hsame⟩
            · exact Or.inl hnew
            · exact Or.inr ⟨e, List.mem_cons_of_mem _ he, hsame⟩

/-- Feeding keeps the indexes ascending. -/
theorem ascending_feed {table : CallTable} (h : Ascending table) (d : ToolCallDelta) :
    Ascending (feed table d) := by
  induction table with
  | nil => simp [feed, Ascending]
  | cons head rest ih =>
      obtain ⟨index, parts⟩ := head
      obtain ⟨hlt, hrest⟩ := ascending_cons.mp h
      rw [feed]
      by_cases heq : d.index = index
      · rw [if_pos heq]
        exact ascending_cons.mpr ⟨hlt, hrest⟩
      · rw [if_neg heq]
        by_cases hless : d.index < index
        · rw [if_pos hless]
          refine ascending_cons.mpr ⟨?_, h⟩
          intro entry hentry
          rcases List.mem_cons.mp hentry with rfl | hmem
          · exact hless
          · exact Int.lt_trans hless (hlt entry hmem)
        · rw [if_neg hless]
          refine ascending_cons.mpr ⟨?_, ih hrest⟩
          intro entry hentry
          rcases mem_feed hentry with hnew | ⟨e, he, hsame⟩
          · rw [hnew]; omega
          · rw [← hsame]; exact hlt e he

/-- **Feeding changes the parts at the fragment's index and no other.** -/
theorem at?_feed {table : CallTable} (h : Ascending table) (d : ToolCallDelta) (i : Int) :
    at? (feed table d) i
      = if i = d.index then some (((at? table i).getD .empty).feed d) else at? table i := by
  induction table with
  | nil => rfl
  | cons head rest ih =>
      obtain ⟨index, parts⟩ := head
      obtain ⟨hlt, hrest⟩ := ascending_cons.mp h
      rw [feed]
      by_cases heq : d.index = index
      · rw [if_pos heq, at?_cons, at?_cons, heq]
        by_cases hi : i = index
        · rw [if_pos hi, if_pos hi, if_pos hi]; rfl
        · rw [if_neg hi, if_neg hi, if_neg hi]
      · rw [if_neg heq]
        by_cases hless : d.index < index
        · rw [if_pos hless, at?_cons]
          by_cases hi : i = d.index
          · -- the table has no entry there yet: all of its indexes are larger
            have hnone : at? ((index, parts) :: rest) i = none := by
              refine at?_eq_none fun entry hentry => ?_
              rcases List.mem_cons.mp hentry with rfl | hmem
              · exact hi ▸ hless
              · exact hi ▸ Int.lt_trans hless (hlt entry hmem)
            rw [if_pos hi, if_pos hi, hnone]; rfl
          · rw [if_neg hi, if_neg hi]
        · rw [if_neg hless, at?_cons, at?_cons, ih hrest]
          by_cases hi : i = index
          · rw [if_pos hi, if_neg (by omega), if_pos hi]
          · rw [if_neg hi, if_neg hi]

-- ── All fragments ──────────────────────────────────────────────────────────────────

theorem ascending_foldl (ds : List ToolCallDelta) {table : CallTable} (h : Ascending table) :
    Ascending (ds.foldl feed table) := by
  induction ds generalizing table with
  | nil => exact h
  | cons d rest ih => exact ih (ascending_feed h d)

/-- **The parts at an index come from its own fragments**, in the order of their arrival. -/
theorem at?_foldl (ds : List ToolCallDelta) {table : CallTable} (h : Ascending table)
    (i : Int) :
    at? (ds.foldl feed table) i
      = if Reference.fragments ds i = [] then at? table i
        else some ((Reference.fragments ds i).foldl CallParts.feed
          ((at? table i).getD .empty)) := by
  induction ds generalizing table with
  | nil => rfl
  | cons d rest ih =>
      rw [List.foldl_cons, ih (ascending_feed h d), at?_feed h d i]
      by_cases hi : d.index = i
      · have hcons : Reference.fragments (d :: rest) i
            = d :: Reference.fragments rest i := by simp [Reference.fragments, hi]
        rw [hcons, if_pos hi.symm, if_neg (List.cons_ne_nil _ _), List.foldl_cons]
        by_cases hrest : Reference.fragments rest i = []
        · rw [if_pos hrest, hrest]; rfl
        · rw [if_neg hrest]; rfl
      · have hskip : Reference.fragments (d :: rest) i = Reference.fragments rest i := by
          simp [Reference.fragments, hi]
        rw [hskip, if_neg (show ¬ i = d.index from fun h' => hi h'.symm)]

/-- The entries of a table that was fed from the start. -/
theorem mem_foldl {ds : List ToolCallDelta} {i : Int} {p : CallParts} :
    (i, p) ∈ ds.foldl feed [] ↔ (∃ d ∈ ds, d.index = i) ∧ p = Reference.parts ds i := by
  rw [mem_iff_at? (ascending_foldl ds ascending_nil), at?_foldl ds ascending_nil]
  have hne : Reference.fragments ds i = [] ↔ ¬ ∃ d ∈ ds, d.index = i := by
    simp [Reference.fragments, List.filter_eq_nil_iff]
  have hparts : (Reference.fragments ds i).foldl CallParts.feed
      ((at? [] i).getD .empty) = Reference.parts ds i := by
    rw [CallParts.foldl_feed]
    simp [at?, CallParts.empty, Reference.parts]
  rw [hparts]
  by_cases hnil : Reference.fragments ds i = []
  · rw [if_pos hnil]
    exact ⟨fun h => absurd h (by simp [at?]), fun h => absurd h.1 (hne.mp hnil)⟩
  · rw [if_neg hnil]
    constructor
    · intro h
      exact ⟨Classical.not_not.mp fun hno => hnil (hne.mpr hno), (Option.some.inj h).symm⟩
    · rintro ⟨-, rfl⟩
      rfl

-- ── The calls that are built ───────────────────────────────────────────────────────

/-- The indexes whose parts have a name. -/
def named (table : CallTable) : List Int :=
  (table.filter fun entry => entry.2.name.isSome).map Prod.fst

theorem named_ascending {table : CallTable} (h : Ascending table) :
    (named table).Pairwise (· < ·) :=
  h.sublist (List.filter_sublist.map Prod.fst)

theorem build_cons (entry : Int × CallParts) (rest : CallTable) :
    build (entry :: rest) = entry.2.build?.toList ++ build rest := by
  obtain ⟨index, p⟩ := entry
  cases h : p.build? <;> simp [build, h]

/-- Building reads every named entry as a call. -/
theorem build_eq_map {ds : List ToolCallDelta} {table : CallTable}
    (h : ∀ entry ∈ table, entry.2 = Reference.parts ds entry.1) :
    build table = (named table).map (Reference.call ds) := by
  induction table with
  | nil => rfl
  | cons entry rest ih =>
      obtain ⟨index, p⟩ := entry
      have hp : p = Reference.parts ds index := h (index, p) (List.mem_cons_self ..)
      rw [build_cons, ih fun entry hentry => h entry (List.mem_cons_of_mem _ hentry)]
      cases hname : p.name with
      | none =>
          have hbuild : p.build? = none := by rw [CallParts.build?, hname]; rfl
          simp [named, hbuild, hname]
      | some name =>
          have hbuild : p.build? = some (Reference.call ds index) := by
            rw [CallParts.build?, hname, Reference.call, ← hp, hname]; rfl
          simp [named, hbuild, hname]

/-- The named indexes are those at which some fragment carries a name. -/
theorem mem_named_foldl {ds : List ToolCallDelta} {i : Int} :
    i ∈ named (ds.foldl feed []) ↔ i ∈ Reference.indexes ds := by
  rw [Reference.mem_indexes, named, List.mem_map]
  constructor
  · rintro ⟨⟨j, p⟩, hentry, rfl⟩
    obtain ⟨hmem, hname⟩ := List.mem_filter.mp hentry
    obtain ⟨-, rfl⟩ := mem_foldl.mp hmem
    obtain ⟨t, ht, hspoken⟩ := lastSpoken_isSome.mp hname
    obtain ⟨d, hd, rfl⟩ := List.mem_map.mp ht
    obtain ⟨hd, hindex⟩ := List.mem_filter.mp hd
    exact ⟨d, hd, of_decide_eq_true hindex, hspoken⟩
  · rintro ⟨d, hd, rfl, hspoken⟩
    refine ⟨(d.index, Reference.parts ds d.index), List.mem_filter.mpr ⟨?_, ?_⟩, rfl⟩
    · exact mem_foldl.mpr ⟨⟨d, hd, rfl⟩, rfl⟩
    · refine lastSpoken_isSome.mpr ⟨d.name, List.mem_map.mpr ⟨d, ?_, rfl⟩, hspoken⟩
      exact List.mem_filter.mpr ⟨hd, decide_eq_true rfl⟩

/-- **The calls that are built are the reference's.** -/
theorem build_foldl (ds : List ToolCallDelta) :
    build (ds.foldl feed []) = (Reference.indexes ds).map (Reference.call ds) := by
  have hparts : ∀ entry ∈ ds.foldl feed [], entry.2 = Reference.parts ds entry.1 :=
    fun entry hentry => (mem_foldl.mp hentry).2
  have hnamed : named (ds.foldl feed []) = Reference.indexes ds :=
    (named_ascending (ascending_foldl ds ascending_nil)).eq_of_mem_iff
      (Reference.indexes_ascending ds) fun i => mem_named_foldl
  rw [build_eq_map hparts, hnamed]

end CallTable

end CompletionStream
