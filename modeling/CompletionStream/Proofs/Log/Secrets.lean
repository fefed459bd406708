import CompletionStream.Log.Line
import CompletionStream.Proofs.Document.Mappings

/-!
# Secrets — what a line of the log can tell of them

A value is secret if it is given and stands under a name that speaks of a secret, or if it is a
text that starts like one (`Secret`).  `Alike` relates two values that differ in their secrets
alone, whatever stands in the place of each, at any depth.  Redacting forgets the difference
(`redact_alike`), and a line is written from redacted members only, so two sheets that differ in
their secrets have the same line or the same fault (`Sheet.Alike.line`).  It does not matter
either when the members are set: sheets stay alike while alike members are set on them
(`Sheet.Alike.assignAll`).

What is redacted shows no secret text (`Shows.safe`), and redacting it again changes nothing
(`redact_redact`).
-/

namespace CompletionStream

namespace Text

/-- To occur is to be an infix. -/
theorem occursIn_iff {part cs : List Char} : occursIn part cs = true ↔ part <:+: cs := by
  induction cs with
  | nil => rw [occursIn, List.isEmpty_iff, List.infix_nil]
  | cons c cs ih =>
      rw [occursIn, Bool.or_eq_true, ih, List.isPrefixOf_iff_prefix, List.infix_cons_iff]

end Text

/-- What holds of every value, if it holds of a value whenever it holds of its parts. -/
theorem Value.byParts {P : Value → Prop}
    (scalar : ∀ v, v.items? = none → v.members? = none → P v)
    (list : ∀ items, (∀ v ∈ items, P v) → P (.list items))
    (tuple : ∀ items, (∀ v ∈ items, P v) → P (.tuple items))
    (dict : ∀ members, (∀ member ∈ members, P member.2) → P (.dict members)) (v : Value) :
    P v := by
  refine @Value.rec P (fun items => ∀ v ∈ items, P v)
    (fun members => ∀ member ∈ members, P member.2) (fun member => P member.2)
    (scalar _ rfl rfl) (fun _ => scalar _ rfl rfl) (fun _ => scalar _ rfl rfl)
    (fun _ => scalar _ rfl rfl) (fun _ => scalar _ rfl rfl) list tuple dict
    (fun _ => scalar _ rfl rfl) ?_ ?_ ?_ ?_ (fun _ _ _ hvalue => hvalue) v
  · exact fun _ h => nomatch h
  · exact fun _ _ hv hrest => List.forall_mem_cons.mpr ⟨hv, hrest⟩
  · exact fun _ h => nomatch h
  · exact fun _ _ hmember hrest => List.forall_mem_cons.mpr ⟨hmember, hrest⟩

/-- Only a text has the normal form of a text. -/
theorem Value.key_eq_str_iff {v : Value} {s : String} : v.key = (Value.str s).key ↔ v = .str s := by
  constructor
  · intro h
    cases v with
    | str t => rw [Members.str_key_eq_iff.mp h]
    | float x =>
        rw [key] at h
        split at h <;> cases h
    | _ => cases h
  · rintro rfl
    rfl

namespace Log

-- ── What is secret ─────────────────────────────────────────────────────────────────

/-- The text of a key, letter case aside, holds one of the secret words. -/
def SpeaksOfSecret (key : Value) : Prop :=
  ∃ word ∈ secretWords, word.toList <:+: (Text.lower key.plain).toList

/-- A text, letter case aside, starts like a secret. -/
def SecretText (s : String) : Prop :=
  ∃ start ∈ secretStarts, start.toList <+: (Text.lower s).toList

/-- What is secret under a key. -/
inductive Secret (key : Value) : Value → Prop where
  | named {v : Value} : SpeaksOfSecret key → v.truthy = true → Secret key v
  | text {s : String} : SecretText s → Secret key (.str s)

theorem startsSecret_iff {s : String} : startsSecret s = true ↔ SecretText s := by
  rw [startsSecret, SecretText, List.any_eq_true]
  simp only [List.isPrefixOf_iff_prefix]

/-- The text of a missing key holds no secret word. -/
theorem namesSecret_iff {key : Value} : namesSecret key = true ↔ SpeaksOfSecret key := by
  have hname : (secretWords.any fun word =>
      Text.occursIn word.toList (Text.lower key.plain).toList) = true ↔ SpeaksOfSecret key := by
    rw [SpeaksOfSecret, List.any_eq_true]
    simp only [Text.occursIn_iff]
  rw [← hname, namesSecret]
  cases key with
  | null => decide
  | _ => rfl

theorem mark_safe : startsSecret mark = false := by decide

theorem redactItems_eq_map (items : List Value) : redactItems items = items.map (redact .null) := by
  induction items with
  | nil => rfl
  | cons v rest ih => rw [redactItems, ih, List.map_cons]

theorem redactMembers_eq_map (members : Members) :
    redactMembers members = members.map fun member => (member.1, redact member.1 member.2) := by
  induction members with
  | nil => rfl
  | cons member rest ih => rw [redactMembers, ih, List.map_cons]

-- ── Values that differ in their secrets ────────────────────────────────────────────

mutual

/-- Under a key the two values differ in their secrets alone. -/
inductive Alike : Value → Value → Value → Prop where
  | same (key v : Value) : Alike key v v
  | secret {key v w : Value} (hv : Secret key v) (hw : Secret key w) : Alike key v w
  | list {key : Value} {first second : List Value} (h : AlikeItems first second) :
      Alike key (.list first) (.list second)
  | tuple {key : Value} {first second : List Value} (h : AlikeItems first second) :
      Alike key (.tuple first) (.tuple second)
  | dict {key : Value} {first second : List (Value × Value)} (h : AlikeMembers first second) :
      Alike key (.dict first) (.dict second)

/-- Items that differ in their secrets alone. -/
inductive AlikeItems : List Value → List Value → Prop where
  | nil : AlikeItems [] []
  | cons {v w : Value} {first second : List Value} (hv : Alike .null v w)
      (hrest : AlikeItems first second) : AlikeItems (v :: first) (w :: second)

/-- Members under the same keys whose values differ in their secrets alone. -/
inductive AlikeMembers : List (Value × Value) → List (Value × Value) → Prop where
  | nil : AlikeMembers [] []
  | cons {key v w : Value} {first second : List (Value × Value)} (hv : Alike key v w)
      (hrest : AlikeMembers first second) :
      AlikeMembers ((key, v) :: first) ((key, w) :: second)

end

/-- Alike items are as many. -/
theorem AlikeItems.isEmpty_eq {first second : List Value} (h : AlikeItems first second) :
    first.isEmpty = second.isEmpty := by
  cases h with
  | nil => rfl
  | cons => rfl

theorem AlikeMembers.isEmpty_eq {first second : Members} (h : AlikeMembers first second) :
    List.isEmpty first = List.isEmpty second := by
  cases h with
  | nil => rfl
  | cons => rfl

/-- The mark takes the place of every secret. -/
theorem redact_secret {key v : Value} (h : Secret key v) : redact key v = .str mark := by
  cases h with
  | named hkey hgiven =>
      rw [redact.eq_def, namesSecret_iff.mpr hkey, hgiven]
      rfl
  | @text s htext =>
      rw [redact.eq_def]
      split
      · rfl
      · exact if_pos (startsSecret_iff.mpr htext)

mutual

/-- **Values that differ in their secrets alone are redacted to the same.** -/
theorem redact_alike {key v w : Value} : Alike key v w → redact key v = redact key w
  | .same key v => rfl
  | .secret hv hw => by rw [redact_secret hv, redact_secret hw]
  | .list h => by
      rw [redact, redact, Value.truthy, Value.truthy, h.isEmpty_eq, redactItems_alike h]
  | .tuple h => by
      rw [redact, redact, Value.truthy, Value.truthy, h.isEmpty_eq, redactItems_alike h]
  | .dict h => by
      rw [redact, redact, Value.truthy, Value.truthy, h.isEmpty_eq, redactMembers_alike h]

theorem redactItems_alike {first second : List Value} :
    AlikeItems first second → redactItems first = redactItems second
  | .nil => rfl
  | .cons hv hrest => by
      rw [redactItems, redactItems, redact_alike hv, redactItems_alike hrest]

theorem redactMembers_alike {first second : Members} :
    AlikeMembers first second → redactMembers first = redactMembers second
  | .nil => rfl
  | .cons hv hrest => by
      rw [redactMembers, redactMembers, redact_alike hv, redactMembers_alike hrest]

end

-- ── What is redacted ───────────────────────────────────────────────────────────────

/-- A text stands somewhere in a value, as the value itself, as an item or under a key. -/
inductive Shows : Value → String → Prop where
  | text (s : String) : Shows (.str s) s
  | item {items : List Value} {v : Value} {s : String} (hv : v ∈ items) (hs : Shows v s) :
      Shows (.list items) s
  | part {items : List Value} {v : Value} {s : String} (hv : v ∈ items) (hs : Shows v s) :
      Shows (.tuple items) s
  | member {members : List (Value × Value)} {key v : Value} {s : String}
      (hv : (key, v) ∈ members) (hs : Shows v s) : Shows (.dict members) s

/-- Redacts the parts of a value that is no secret itself. -/
def redactParts : Value → Value
  | .dict members => .dict (members.map fun member => (member.1, redact member.1 member.2))
  | .list items => .list (items.map (redact .null))
  | .tuple items => .list (items.map (redact .null))
  | v => v

/-- **The mark takes the place of a secret**, and of all else the parts are redacted. -/
theorem redact_cases (key v : Value) :
    Secret key v ∧ redact key v = .str mark
      ∨ ¬ Secret key v ∧ redact key v = redactParts v := by
  by_cases hsecret : Secret key v
  · exact .inl ⟨hsecret, redact_secret hsecret⟩
  · refine .inr ⟨hsecret, ?_⟩
    have hplain : (namesSecret key && v.truthy) = false := by
      rw [Bool.eq_false_iff]
      intro hnamed
      rw [Bool.and_eq_true, namesSecret_iff] at hnamed
      exact hsecret (.named hnamed.1 hnamed.2)
    rw [redact.eq_def, hplain, if_neg Bool.false_ne_true]
    cases v with
    | str s =>
        have htext : startsSecret s = false := by
          rw [Bool.eq_false_iff]
          exact fun hstarts => hsecret (.text (startsSecret_iff.mp hstarts))
        dsimp only
        rw [htext, if_neg Bool.false_ne_true]
        rfl
    | list items => exact congrArg Value.list (redactItems_eq_map items)
    | tuple items => exact congrArg Value.list (redactItems_eq_map items)
    | dict members => exact congrArg Value.dict (redactMembers_eq_map members)
    | _ => rfl

theorem redactParts_scalar {v : Value} (hitems : v.items? = none) (hmembers : v.members? = none) :
    redactParts v = v := by
  cases v with
  | list items => exact nomatch hitems
  | tuple items => exact nomatch hitems
  | dict members => exact nomatch hmembers
  | _ => rfl

/-- A value whose parts are redacted counts as given if it did before. -/
@[simp] theorem truthy_redactParts (v : Value) : (redactParts v).truthy = v.truthy := by
  cases v with
  | list items => simp [redactParts, Value.truthy]
  | tuple items => simp [redactParts, Value.truthy]
  | dict members => simp [redactParts, Value.truthy]
  | _ => rfl

/-- Redacting the parts of what is no secret makes no secret of it. -/
theorem not_secret_redactParts {key v : Value} (h : ¬ Secret key v) :
    ¬ Secret key (redactParts v) := by
  intro hsecret
  generalize hw : redactParts v = w at hsecret
  cases hsecret with
  | named hkey hgiven =>
      rw [← hw, truthy_redactParts] at hgiven
      exact h (.named hkey hgiven)
  | text htext =>
      cases v with
      | str s =>
          obtain rfl := Value.str.inj hw
          exact h (.text htext)
      | _ => exact nomatch hw

/-- The mark is no secret text. -/
theorem shows_mark {s : String} (h : Shows (.str mark) s) : ¬ SecretText s := by
  cases h with
  | text =>
      rw [← startsSecret_iff, mark_safe]
      exact Bool.false_ne_true

theorem redact_mark (key : Value) : redact key (.str mark) = .str mark := by
  rcases redact_cases key (.str mark) with ⟨-, hmark⟩ | ⟨-, hparts⟩
  · exact hmark
  · exact hparts

/-- **No secret text stands in what was redacted.** -/
theorem Shows.safe {key v : Value} {s : String} (h : Shows (redact key v) s) :
    ¬ SecretText s := by
  have hitems {items : List Value}
      (ih : ∀ v ∈ items, ∀ {key}, Shows (redact key v) s → ¬ SecretText s)
      (h : Shows (.list (items.map (redact .null))) s) : ¬ SecretText s := by
    cases h with
    | item hv hs =>
        obtain ⟨v, hmember, rfl⟩ := List.mem_map.mp hv
        exact ih v hmember hs
  induction v using Value.byParts generalizing key with
  | scalar v hitems hmembers =>
      rcases redact_cases key v with ⟨-, hmark⟩ | ⟨hsecret, hparts⟩
      · exact shows_mark (hmark ▸ h)
      · rw [hparts, redactParts_scalar hitems hmembers] at h
        intro htext
        cases h with
        | text => exact hsecret (.text htext)
        | item => exact nomatch hitems
        | part => exact nomatch hitems
        | member => exact nomatch hmembers
  | list items ih =>
      rcases redact_cases key (.list items) with ⟨-, hmark⟩ | ⟨-, hparts⟩
      · exact shows_mark (hmark ▸ h)
      · rw [hparts] at h
        exact hitems ih h
  | tuple items ih =>
      rcases redact_cases key (.tuple items) with ⟨-, hmark⟩ | ⟨-, hparts⟩
      · exact shows_mark (hmark ▸ h)
      · rw [hparts] at h
        exact hitems ih h
  | dict members ih =>
      rcases redact_cases key (.dict members) with ⟨-, hmark⟩ | ⟨-, hparts⟩
      · exact shows_mark (hmark ▸ h)
      · rw [hparts] at h
        cases h with
        | member hv hs =>
            obtain ⟨member, hmember, heq⟩ := List.mem_map.mp hv
            obtain ⟨rfl, rfl⟩ := Prod.mk.inj heq
            exact ih member hmember hs

/-- **Redacting again changes nothing.** -/
theorem redact_redact (key v : Value) : redact key (redact key v) = redact key v := by
  have hagain (v : Value) (hparts : redactParts (redactParts v) = redactParts v) (key : Value) :
      redact key (redact key v) = redact key v := by
    rcases redact_cases key v with ⟨-, hmark⟩ | ⟨hsecret, hfirst⟩
    · rw [hmark, redact_mark]
    · rcases redact_cases key (redactParts v) with ⟨hbecame, -⟩ | ⟨-, hsecond⟩
      · exact absurd hbecame (not_secret_redactParts hsecret)
      · rw [hfirst, hsecond, hparts]
  induction v using Value.byParts generalizing key with
  | scalar v hitems hmembers =>
      apply hagain
      rw [redactParts_scalar hitems hmembers, redactParts_scalar hitems hmembers]
  | list items ih =>
      apply hagain
      rw [redactParts, redactParts, List.map_map]
      exact congrArg Value.list (List.map_congr_left fun v hv => ih v hv .null)
  | tuple items ih =>
      apply hagain
      rw [redactParts, redactParts, List.map_map]
      exact congrArg Value.list (List.map_congr_left fun v hv => ih v hv .null)
  | dict members ih =>
      apply hagain
      rw [redactParts, redactParts, List.map_map]
      refine congrArg Value.dict (List.map_congr_left fun member hmember => ?_)
      exact congrArg (Prod.mk member.1) (ih member hmember member.1)

-- ── Members and sheets that differ in their secrets ─────────────────────────────────

/-- Alike members have the same keys. -/
theorem AlikeMembers.keys_eq {first second : Members} :
    AlikeMembers first second → first.map (·.1) = second.map (·.1)
  | .nil => rfl
  | .cons _ hrest => congrArg (_ :: ·) hrest.keys_eq

/-- Whether there is a value under a name depends on the keys only. -/
theorem isSome_get? (members : Members) (name : String) :
    (members.get? name).isSome = (members.map (·.1)).any (·.key == (Value.str name).key) := by
  rw [Members.get?, Members.lookup?, Option.isSome_map, List.isSome_find?, List.any_map]
  rfl

/-- A key that stays where it was is the same text, so that what is set there is as secret. -/
theorem AlikeMembers.put_cons {key v w old new : Value} {first second : Members} {name : String}
    (hkept : Alike key old new) (hset : Alike (.str name) v w) (hrest : AlikeMembers first second)
    (hput : AlikeMembers (first.put (.str name) v) (second.put (.str name) w)) :
    AlikeMembers (Members.put ((key, old) :: first) (.str name) v)
      (Members.put ((key, new) :: second) (.str name) w) := by
  rw [Members.put, Members.put]
  split
  · rename_i hkey
    rw [Value.key_eq_str_iff.mp (beq_iff_eq.mp hkey)]
    exact .cons hset hrest
  · exact .cons hkept hput

/-- Setting a text key to alike values keeps members alike. -/
theorem AlikeMembers.put {first second : Members} {name : String} {v w : Value}
    (hset : Alike (.str name) v w) : AlikeMembers first second →
      AlikeMembers (first.put (.str name) v) (second.put (.str name) w)
  | .nil => .cons hset .nil
  | .cons hkept hrest => .put_cons hkept hset hrest (hrest.put hset)

namespace Sheet

/-- Two sheets that differ in the secrets of their extra members alone. -/
structure Alike (first second : Sheet) : Prop where
  record : second = { first with extra := second.extra }
  extra : AlikeMembers first.extra second.extra

/-- **A line tells nothing of secrets**: alike sheets have the same line or the same fault. -/
theorem Alike.line {first second : Sheet} (h : first.Alike second) (kind : LineKind) :
    first.line kind = second.line kind := by
  obtain ⟨hrecord, hextra⟩ := h
  generalize second.extra = extra at hrecord hextra
  subst hrecord
  have hmessage : first.message = { first with extra }.message := by
    rw [message, message, isSome_get?, isSome_get?, hextra.keys_eq]
  have hentries (timestamp : String) :
      first.entriesAt timestamp = { first with extra }.entriesAt timestamp := by
    rw [entriesAt, entriesAt, hmessage, ← redactMembers_eq_map, ← redactMembers_eq_map,
      redactMembers_alike hextra]
    rfl
  rw [Sheet.line, Sheet.line, entries, entries]
  simp only [hentries]
  rfl

/-- The names of a record's own attributes that show in its line. -/
def shownAttributes : List String :=
  ["name", "levelname", "msg", "args", "created", "msecs", "exc_info"]

/-- What is set under any other name is an extra member, or shows nowhere. -/
theorem assign_extra (sheet : Sheet) {name : String} (h : name ∉ shownAttributes) (v : Value) :
    sheet.assign (.str name) v
      = if silentAttributes.contains name then sheet
        else { sheet with extra := sheet.extra.put (.str name) v } := by
  rw [assign.eq_def]
  split <;> simp_all [shownAttributes]

/-- Setting an extra member to alike values keeps sheets alike. -/
theorem Alike.assign {first second : Sheet} (h : first.Alike second) {name : String}
    (hname : name ∉ shownAttributes) {v w : Value} (hvw : Log.Alike (.str name) v w) :
    (first.assign (.str name) v).Alike (second.assign (.str name) w) := by
  rw [assign_extra first hname, assign_extra second hname]
  split
  · exact h
  · refine ⟨?_, h.extra.put hvw⟩
    rw [h.record]

/-- Under these keys a caller's own members are set, and nothing of a record that shows. -/
def IsExtra (key : Value) : Prop :=
  ∃ name, key = .str name ∧ name ∉ shownAttributes

/-- Setting extra members to alike values, one after the other, keeps sheets alike. -/
theorem Alike.assignAll {first second : Sheet} (h : first.Alike second) {vs ws : Members} :
    AlikeMembers vs ws → (∀ member ∈ vs, IsExtra member.1) →
      (first.assignAll vs).Alike (second.assignAll ws)
  | .nil, _ => h
  | .cons hv hrest, hextra => by
      obtain ⟨⟨name, rfl, hname⟩, hothers⟩ := List.forall_mem_cons.mp hextra
      exact (h.assign hname hv).assignAll hrest hothers

end Sheet

/-- Members differ from themselves in nothing. -/
theorem alikeMembers_refl (members : Members) : AlikeMembers members members := by
  induction members with
  | nil => exact .nil
  | cons member rest ih => exact .cons (.same member.1 member.2) ih

-- ── The log ────────────────────────────────────────────────────────────────────────

/-- **THE LOG DOES NOT DEPEND ON SECRETS.**  Two sheets whose extra members differ in their
    secrets alone, whatever stands in the place of each and however deep, have the same line or
    the same fault, whichever way lines are written; and it is so as well if such members are
    set on one sheet.  Redacting again changes nothing, and no secret text stands in what was
    redacted. -/
theorem line_hides_secrets (kind : LineKind) :
    (∀ first second : Sheet, first.Alike second → first.line kind = second.line kind)
      ∧ (∀ (sheet : Sheet) (vs ws : Members), AlikeMembers vs ws →
          (∀ member ∈ vs, Sheet.IsExtra member.1) →
          (sheet.assignAll vs).line kind = (sheet.assignAll ws).line kind)
      ∧ (∀ key v, redact key (redact key v) = redact key v)
      ∧ ∀ key v s, Shows (redact key v) s → ¬ SecretText s := by
  refine ⟨fun first second h => h.line kind, ?_, redact_redact, fun key v s h => h.safe⟩
  intro sheet vs ws hmembers hextra
  have hsheet : sheet.Alike sheet := ⟨rfl, alikeMembers_refl sheet.extra⟩
  exact (hsheet.assignAll hmembers hextra).line kind

/-- A report with a key and a header, both of them secret. -/
def reported (key header : Value) : Members :=
  [(.str "Api_Key", key),
    (.str "call", .dict [(.str "headers", .tuple [.str "accept", header]), (.int 7, .null)])]

/-- A number or a list in the place of a key, and one header in the place of another. -/
theorem line_hides_secrets_reported :
    ∃ sheet : Sheet,
      AlikeMembers (reported (.int 5) (.str "Bearer a")) (reported (.list [.null]) (.str "SK-b"))
      ∧ ∀ kind, (sheet.assignAll (reported (.int 5) (.str "Bearer a"))).line kind
        = (sheet.assignAll (reported (.list [.null]) (.str "SK-b"))).line kind := by
  have hkey (v : Value) (hv : v.truthy = true) : Secret (.str "Api_Key") v :=
    .named (namesSecret_iff.mp (by decide)) hv
  have hheader (s : String) (hs : startsSecret s = true) : Secret .null (.str s) :=
    .text (startsSecret_iff.mp hs)
  have halike : AlikeMembers (reported (.int 5) (.str "Bearer a"))
      (reported (.list [.null]) (.str "SK-b")) :=
    .cons (.secret (hkey _ rfl) (hkey _ rfl))
      (.cons (.dict (.cons (.tuple (.cons (.same _ _) (.cons
        (.secret (hheader _ (by decide)) (hheader _ (by decide))) .nil)))
        (.cons (.same _ _) .nil))) .nil)
  have hextra : ∀ member ∈ reported (.int 5) (.str "Bearer a"), Sheet.IsExtra member.1 := by
    intro member hmember
    rcases List.mem_cons.mp hmember with rfl | hmember
    · exact ⟨"Api_Key", rfl, by decide⟩
    · rw [List.mem_singleton.mp hmember]
      exact ⟨"call", rfl, by decide⟩
  refine ⟨Sheet.ofRecord ⟨"log", LogRecord.info, "sent", [], [], none⟩ (.int 0) (.int 0), halike,
    fun kind => ?_⟩
  exact (line_hides_secrets kind).2.1 _ _ _ halike hextra

end Log

end CompletionStream
