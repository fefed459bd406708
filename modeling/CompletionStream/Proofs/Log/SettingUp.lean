import CompletionStream.Log.Line
import Mathlib.Data.List.Forall2

/-!
# Setting up — logging that is set up again and again

Every setup of logging absorbs the one before it (`use_use`): the level is set anew, and a
handler that was added for want of any is a structured one, which the next setup changes like
all others.  So after any number of setups the root is as if only the last one had been made
(`setUpAll_eq`).

What one setup does is said handler by handler (`Follows`): each stays in its place, a plain one
as it is and a structured one with its lines in the new kind; and only a root without handlers
gets one (`last_setup_decides`).  Which level a name stands for is said apart from how it is
looked up (`Stands`).
-/

namespace CompletionStream.Log

-- ── Names of levels ────────────────────────────────────────────────────────────────

/-- The names of levels. -/
def levelNames : List (String × Int) :=
  [("CRITICAL", 50), ("FATAL", 50), ("ERROR", 40), ("WARNING", 30), ("WARN", 30), ("INFO", 20),
    ("DEBUG", 10), ("NOTSET", 0)]

/-- What else the logging facility has under a name in capitals. -/
def otherNames : List String :=
  ["BASIC_FORMAT", "_STYLES"]

/-- A name stands for a level: it is the name of one, or nothing at all is known by it. -/
inductive Stands (name : String) : Int → Prop where
  | level {n : Int} : (Text.upper name, n) ∈ levelNames → Stands name n
  | unknown : Text.upper name ∉ levelNames.map Prod.fst ++ otherNames → Stands name 20

/-- A name that stands for a level is accepted as that level. -/
theorem levelOf_of_stands {name : String} {n : Int} (h : Stands name n) :
    levelOf name = .ok n := by
  rw [levelOf.eq_def]
  cases h with
  | level hmem =>
      generalize Text.upper name = word at hmem
      simp only [levelNames, List.mem_cons, Prod.mk.injEq, List.not_mem_nil, or_false] at hmem
      rcases hmem with ⟨rfl, rfl⟩ | ⟨rfl, rfl⟩ | ⟨rfl, rfl⟩ | ⟨rfl, rfl⟩ | ⟨rfl, rfl⟩ | ⟨rfl, rfl⟩ |
        ⟨rfl, rfl⟩ | ⟨rfl, rfl⟩ <;> rfl
  | unknown hnone =>
      generalize Text.upper name = word at hnone
      split
      case h_11 => rfl
      all_goals exact absurd (by decide) hnone

/-- A name is spelled like a word, each of its letters in either case. -/
def Spells (name word : String) : Prop :=
  name.toList.map Char.toUpper = word.toList

theorem upperChar_ascii {c : Char} (h : c.toNat < 128) : Text.upperChar c = [c.toUpper] := by
  rw [Text.upperChar.eq_def]
  split
  case h_11 => rfl
  all_goals omega

theorem toUpper_of_not_ascii {c : Char} (h : 128 ≤ c.toNat) : c.toUpper = c := by
  refine dif_neg ?_
  rintro ⟨-, hle⟩
  have hnat := UInt32.le_iff_toNat_le.mp hle
  exact absurd (Nat.le_trans h hnat) (by decide)

/-- A word in capitals is the upper-case form of every name that is spelled like it. -/
theorem upper_of_spells {name word : String} (hword : ∀ d ∈ word.toList, d.toNat < 128)
    (h : Spells name word) : Text.upper name = word := by
  have hchar : ∀ c ∈ name.toList, Text.upperChar c = [c.toUpper] := by
    intro c hmem
    refine upperChar_ascii (Nat.lt_of_not_le fun hle => ?_)
    have hupper : c.toUpper ∈ word.toList := h ▸ List.mem_map_of_mem hmem
    rw [toUpper_of_not_ascii hle] at hupper
    exact absurd (hword c hupper) (Nat.not_lt.mpr hle)
  rw [Text.upper, List.flatMap_congr hchar, ← List.map_eq_flatMap, h, String.ofList_toList]

/-- The case of its letters does not matter for the name of a level. -/
theorem stands_of_spells {name word : String} {n : Int} (hmem : (word, n) ∈ levelNames)
    (h : Spells name word) : Stands name n := by
  have hall : (levelNames.all fun named => named.1.toList.all fun d => d.toNat < 128) = true :=
    rfl
  simp only [List.all_eq_true, decide_eq_true_eq] at hall
  exact .level ((upper_of_spells (hall _ hmem) h).symm ▸ hmem)

-- ── One setup ──────────────────────────────────────────────────────────────────────

/-- What becomes of a handler when the kind of structured lines is set. -/
inductive Follows (kind : LineKind) : Handler → Handler → Prop where
  | plain : Follows kind .plain .plain
  | structured (old : LineKind) : Follows kind (.structured old) (.structured kind)

/-- What becomes of all handlers: each keeps its place, and one is added only to none. -/
structure Adjusted (kind : LineKind) (before after : List Handler) : Prop where
  kept : before ≠ [] → List.Forall₂ (Follows kind) before after
  added : before = [] → after = [.structured kind]

/-- What logging is set up with. -/
structure Setup where
  level : String
  kind : LineKind

namespace Root

/-- Sets logging up several times. -/
def setUpAll (root : Root) (setups : List Setup) : Outcome Root :=
  setups.foldlM (fun root setup => root.setUp setup.level setup.kind) root

theorem setUp_of_stands {setup : Setup} {n : Int} (h : Stands setup.level n) (root : Root) :
    root.setUp setup.level setup.kind = .ok (root.use n setup.kind) := by
  rw [setUp, levelOf_of_stands h]
  rfl

/-- A setup says what becomes of every handler. -/
theorem adjusted_use (root : Root) (level : Int) (kind : LineKind) :
    Adjusted kind root.handlers (root.use level kind).handlers := by
  obtain ⟨_, handlers⟩ := root
  cases handlers with
  | nil => exact ⟨fun hnone => absurd rfl hnone, fun _ => rfl⟩
  | cons first rest =>
      refine ⟨fun _ => ?_, fun hnone => nomatch hnone⟩
      show List.Forall₂ (Follows kind) (first :: rest) ((first :: rest).map (Handler.use kind))
      rw [List.forall₂_map_right_iff]
      refine List.forall₂_same.mpr fun handler _ => ?_
      cases handler with
      | plain => exact .plain
      | structured old => exact .structured old

/-- **A setup absorbs the one before it.** -/
theorem use_use (root : Root) (level level' : Int) (kind kind' : LineKind) :
    (root.use level kind).use level' kind' = root.use level' kind' := by
  have hhandler : Handler.use kind' ∘ Handler.use kind = Handler.use kind' := by
    funext handler
    cases handler <;> rfl
  obtain ⟨_, handlers⟩ := root
  cases handlers with
  | nil => rfl
  | cons first rest =>
      show Root.mk level' (((first :: rest).map (Handler.use kind)).map (Handler.use kind'))
        = ⟨level', (first :: rest).map (Handler.use kind')⟩
      rw [List.map_map, hhandler]

-- ── Any number of setups ───────────────────────────────────────────────────────────

/-- **After accepted setups the root is as the last one alone leaves it.** -/
theorem setUpAll_eq {earlier : List Setup} {last : Setup} {n : Int}
    (hearlier : ∀ setup ∈ earlier, ∃ m, Stands setup.level m) (hlast : Stands last.level n)
    (root : Root) :
    root.setUpAll (earlier ++ [last]) = .ok (root.use n last.kind) := by
  induction earlier generalizing root with
  | nil =>
      rw [setUpAll, List.nil_append, List.foldlM_cons, setUp_of_stands hlast]
      rfl
  | cons setup rest ih =>
      obtain ⟨⟨m, hsetup⟩, hrest⟩ := List.forall_mem_cons.mp hearlier
      rw [setUpAll, List.cons_append, List.foldlM_cons, setUp_of_stands hsetup]
      show (root.use m setup.kind).setUpAll (rest ++ [last]) = _
      rw [ih hrest, use_use]

/-- Structured handlers of a root that was set up have the kind it was set up with. -/
theorem kind_of_use {root : Root} {level : Int} {kind other : LineKind}
    (h : .structured other ∈ (root.use level kind).handlers) : other = kind := by
  obtain ⟨_, handlers⟩ := root
  cases handlers with
  | nil => exact Handler.structured.inj (List.mem_singleton.mp h)
  | cons first rest =>
      obtain ⟨handler, -, huse⟩ := List.mem_map.mp h
      cases handler with
      | plain => exact nomatch huse
      | structured old => exact (Handler.structured.inj huse).symm

/-- So all lines that it writes are of that kind. -/
theorem written_of_use {root : Root} {level : Int} {kind : LineKind} {time line : String}
    {record : LogRecord} (h : line ∈ (root.use level kind).linesOf time record) :
    (Sheet.ofRecord record .null .null).entriesAt time >>= Sheet.write kind = .ok line := by
  rw [linesOf] at h
  split at h
  · exact nomatch h
  · obtain ⟨handler, hmem, hline⟩ := List.mem_filterMap.mp h
    cases handler with
    | plain => exact nomatch hline
    | structured other =>
        obtain rfl := kind_of_use hmem
        dsimp only at hline
        split at hline
        · rename_i written hwritten
          rw [hwritten, Option.some.inj hline]
        · exact nomatch hline

/-- **THE LAST SETUP DECIDES, AND HANDLERS STAY.**  After any number of setups whose levels stand
    for something the root is as the last setup alone leaves it.  It has the level that the last
    name stands for, whatever the case of its letters.  Every handler is still in its place, a
    plain one as it was and a structured one writing lines of the last kind; one handler was
    added if there was none, and none otherwise. -/
theorem last_setup_decides (root : Root) {earlier : List Setup} {last : Setup} {n : Int}
    (hearlier : ∀ setup ∈ earlier, ∃ m, Stands setup.level m) (hlast : Stands last.level n) :
    ∃ final, root.setUpAll (earlier ++ [last]) = .ok final
      ∧ root.setUp last.level last.kind = .ok final
      ∧ final.level = n
      ∧ (∀ word m, (word, m) ∈ levelNames → Spells last.level word → final.level = m)
      ∧ Adjusted last.kind root.handlers final.handlers
      ∧ ∀ time record line, line ∈ final.linesOf time record →
          (Sheet.ofRecord record .null .null).entriesAt time >>= Sheet.write last.kind
            = .ok line := by
  have halone := setUp_of_stands hlast root
  refine ⟨root.use n last.kind, setUpAll_eq hearlier hlast root, halone, rfl, ?_,
    adjusted_use root n last.kind, fun _ _ _ => written_of_use⟩
  intro word m hmem hspells
  have hsame := levelOf_of_stands (stands_of_spells hmem hspells)
  rw [levelOf_of_stands hlast] at hsame
  exact Except.ok.inj hsame

/-- Two handlers, one of them structured, set up three times: at last for warnings. -/
theorem last_setup_decides_warning :
    Stands "deBUG" 10 ∧ Stands "verbose" 20 ∧ Stands "warN" 30 ∧ Spells "warN" "WARN"
      ∧ (untouched [.plain, .structured .json]).setUpAll
          [⟨"deBUG", .json⟩, ⟨"verbose", .json⟩, ⟨"warN", .keyValue⟩]
        = .ok ⟨30, [.plain, .structured .keyValue]⟩
      ∧ (Root.mk 30 [.plain, .structured .keyValue]).level = 30
      ∧ Adjusted .keyValue [.plain, .structured .json] [.plain, .structured .keyValue] := by
  have hdebug : Stands "deBUG" 10 := .level (by decide)
  have hverbose : Stands "verbose" 20 := .unknown (by decide)
  have hwarn : Stands (Setup.mk "warN" .keyValue).level 30 := .level (by decide)
  have hearlier : ∀ setup ∈ [Setup.mk "deBUG" .json, ⟨"verbose", .json⟩],
      ∃ m, Stands setup.level m := by
    simpa using ⟨⟨_, hdebug⟩, ⟨_, hverbose⟩⟩
  have hspells : Spells (Setup.mk "warN" .keyValue).level "WARN" := rfl
  obtain ⟨final, hall, halone, -, hcase, hadjusted, -⟩ :=
    last_setup_decides (untouched [.plain, .structured .json]) hearlier hwarn
  obtain rfl : Root.use _ 30 .keyValue = final :=
    Except.ok.inj ((setUp_of_stands hwarn _).symm.trans halone)
  exact ⟨hdebug, hverbose, hwarn, hspells, hall, hcase "WARN" 30 (by decide) hspells, hadjusted⟩

end Root

end CompletionStream.Log
