import CompletionStream.Proofs.Document.Updates
import CompletionStream.Proofs.Log.Secrets

/-!
# Entries — what a line shows of a record and what of its extra members

A record has entries of its own: its moment, its level, its logger, its message and, if it
reports a fault, what it tells of that (`Owns`).  A line lays the extra members over them, each
redacted, so that a line is made of exactly these entries, in JSON or as pairs (`write_eq`).

An extra member takes the place of an entry of the same name, and nothing keeps it from being
named like one: of the names of a line only that of the message belongs to every record.  So an
entry of the record stands unless an extra member has its name, and every extra member that
shows at all is there (`Kept`); where no names meet, the record's own entries come first and the
extra ones follow.  One name more is not free: an extra member `getMessage` leaves a record
without a message.
-/

namespace CompletionStream.Log

open Members (keys lacks)

-- ── Lines and their parts ──────────────────────────────────────────────────────────

namespace LineKind

/-- An entry as a part of a line. -/
def part (kind : LineKind) (entry : Value × Value) : String :=
  match kind with
  | .json => Document.jsonString (Document.jsonKey entry.1) ++ ": " ++ Document.jsonText entry.2
  | .keyValue => entry.1.plain ++ "=" ++ entry.2.literal

/-- Parts in a line. -/
def joined (kind : LineKind) (parts : List String) : String :=
  match kind with
  | .json => "\x7b" ++ Value.commaSeparated parts ++ "\x7d"
  | .keyValue => " ".intercalate parts

/-- Whether entries can be written in a line: in JSON there are values that cannot be keys. -/
def holds (kind : LineKind) (entries : Members) : Bool :=
  match kind with
  | .json => Document.membersHaveJsonKeys entries
  | .keyValue => true

theorem jsonMembers_eq_map (entries : Members) :
    Document.jsonMembers entries = entries.map (part .json) := by
  induction entries with
  | nil => rfl
  | cons entry rest ih =>
      rw [Document.jsonMembers, ih]
      rfl

end LineKind

/-- **A line is made of its entries**, one part for each. -/
theorem Sheet.write_eq (kind : LineKind) (entries : Members) :
    Sheet.write kind entries
      = if kind.holds entries then .ok (kind.joined (entries.map kind.part))
        else .error .wrongType := by
  cases kind with
  | json =>
      rw [Sheet.write, Document.writeJson, Document.hasJsonKeys, Document.jsonText,
        LineKind.jsonMembers_eq_map]
      rfl
  | keyValue => rfl

-- ── Extra members ──────────────────────────────────────────────────────────────────

namespace Sheet

/-- Whether an extra member shows in a line: the attributes of every record do not. -/
def visible (member : Value × Value) : Bool :=
  match member.1 with
  | .str name => !silentAttributes.contains name
  | _ => true

/-- Extra members that a record takes: each is named once, and none is named like an attribute
    of the record that shows. -/
structure Accepted (members : Members) : Prop where
  keys : members.keys.Nodup
  names : ∀ member ∈ members, ∀ name, member.1 = .str name → name ∉ shownAttributes

/-- Of members that are named once each the visible ones are. -/
theorem Accepted.keys_visible {members : Members} (h : Accepted members) :
    (Members.keys (members.filter visible)).Nodup :=
  h.keys.sublist (List.filter_sublist.map _)

/-- Members named by different texts, none of them that of an attribute that shows. -/
theorem accepted_ofNames {members : List (String × Value)} (hdistinct : (members.map (·.1)).Nodup)
    (hnames : ∀ name ∈ members.map (·.1), name ∉ shownAttributes) :
    Accepted (members.map fun member => (.str member.1, member.2)) where
  keys := by
    have hkeys : (Members.keys (members.map fun member => (.str member.1, member.2)))
        = (members.map (·.1)).map fun name => (Value.str name).key := by
      rw [Members.keys, List.map_map, List.map_map]
      rfl
    rw [hkeys]
    exact hdistinct.map fun a b hab => Members.str_key_eq_iff.mp hab
  names := by
    intro member hmember name hname
    obtain ⟨named, hnamed, rfl⟩ := List.mem_map.mp hmember
    rw [← Value.str.inj hname]
    exact hnames named.1 (List.mem_map_of_mem hnamed)

theorem visible_str (name : String) (v : Value) :
    visible (.str name, v) = !silentAttributes.contains name := rfl

/-- A name that shows is found among the visible members if it is found at all. -/
theorem get?_visible {name : String} (h : visible (.str name, .null) = true)
    (members : Members) : Members.get? (members.filter visible) name = members.get? name := by
  rw [Members.get?, Members.get?, Members.lookup?, Members.lookup?, List.find?_filter]
  congr 2
  funext member
  by_cases hkey : member.1.key = (Value.str name).key
  · have hvisible : visible member = true := by
      rw [visible, Value.key_eq_str_iff.mp hkey]
      exact h
    simp [hvisible, hkey]
  · simp [hkey]

theorem assign_visible (sheet : Sheet) {member : Value × Value}
    (h : ∀ name, member.1 = .str name → name ∉ shownAttributes) :
    sheet.assign member.1 member.2
      = { sheet with extra := sheet.extra.update ([member].filter visible) } := by
  obtain ⟨key, v⟩ := member
  cases key with
  | str name =>
      rw [assign_extra sheet (h name rfl)]
      rw [List.filter_cons, visible_str]
      by_cases hsilent : silentAttributes.contains name = true
      · rw [if_pos hsilent, hsilent]
        rfl
      · rw [if_neg hsilent, Bool.eq_false_iff.mpr hsilent]
        rfl
  | _ => rfl

/-- Setting extra members changes the extra members, and of these the visible ones only. -/
theorem assignAll_visible (sheet : Sheet) {members : Members}
    (h : ∀ member ∈ members, ∀ name, member.1 = .str name → name ∉ shownAttributes) :
    sheet.assignAll members
      = { sheet with extra := sheet.extra.update (members.filter visible) } := by
  induction members generalizing sheet with
  | nil => rfl
  | cons member rest ih =>
      obtain ⟨hmember, hrest⟩ := List.forall_mem_cons.mp h
      have hstep : sheet.assignAll (member :: rest)
          = (sheet.assign member.1 member.2).assignAll rest := rfl
      have hsplit : (member :: rest).filter visible
          = [member].filter visible ++ rest.filter visible := by
        rw [← List.filter_append]
        rfl
      rw [hstep, assign_visible sheet hmember, ih _ hrest, hsplit]
      simp only [Members.update, List.foldl_append]

/-- A record without extra members has those that are set on it and show. -/
theorem assignAll_accepted {sheet : Sheet} (hbare : sheet.extra = []) {members : Members}
    (h : Accepted members) :
    sheet.assignAll members = { sheet with extra := members.filter visible } := by
  rw [assignAll_visible sheet h.names, hbare,
    Members.update_nil h.keys_visible]

-- ── Entries ────────────────────────────────────────────────────────────────────────

/-- The entries of a record itself. -/
def ownEntries (sheet : Sheet) (time message : String) (trace : Option String) : Members :=
  [(.str "timestamp", .str time), (.str "level", sheet.level), (.str "logger", sheet.logger),
    (.str "message", .str message)] ++ (trace.map fun text => (.str "exception", .str text)).toList

/-- These are the entries of a record itself: its moment, its level, its logger, its message
    and, if it reports a fault, what it tells of that. -/
def Owns (sheet : Sheet) (own : Members) : Prop :=
  ∃ time message trace, sheet.timestamp = .ok time ∧ sheet.message = .ok message
    ∧ sheet.traceText = .ok trace ∧ own = sheet.ownEntries time message trace

/-- The names of the entries that a record can have. -/
def ownNames : List String :=
  ["timestamp", "level", "logger", "message", "exception"]

theorem names_ownEntries (sheet : Sheet) (time message : String) (trace : Option String) :
    ((sheet.ownEntries time message trace).map (·.1)).Sublist (ownNames.map .str) := by
  cases trace with
  | none =>
      exact List.sublist_append_left (["timestamp", "level", "logger", "message"].map Value.str)
        [.str "exception"]
  | some text => exact List.Sublist.refl _

/-- The entries of a record are named by texts. -/
theorem Owns.names {sheet : Sheet} {own : Members} (h : sheet.Owns own) :
    ∀ entry ∈ own, ∃ name, entry.1 = .str name := by
  obtain ⟨time, message, trace, -, -, -, rfl⟩ := h
  intro entry hentry
  have hname := (names_ownEntries sheet time message trace).subset (List.mem_map_of_mem hentry)
  obtain ⟨name, -, heq⟩ := List.mem_map.mp hname
  exact ⟨name, heq.symm⟩

/-- No two entries of a record have the same name. -/
theorem Owns.keys {sheet : Sheet} {own : Members} (h : sheet.Owns own) : own.keys.Nodup := by
  obtain ⟨time, message, trace, -, -, -, rfl⟩ := h
  have hnames : ((ownNames.map Value.str).map Value.key).Nodup := by decide
  have hkeys := ((names_ownEntries sheet time message trace).map Value.key).nodup hnames
  rw [List.map_map] at hkeys
  exact hkeys

/-- The extra members, redacted, are laid over the entries of the record. -/
theorem entries_eq (sheet : Sheet) :
    sheet.entries = do
      let time ← sheet.timestamp
      let message ← sheet.message
      let trace ← sheet.traceText
      return (sheet.ownEntries time message trace).update (redactMembers sheet.extra) := by
  rw [entries, redactMembers_eq_map]
  refine bind_congr fun time => bind_congr fun message => bind_congr fun trace => ?_
  cases trace with
  | none => rfl
  | some text => rfl

/-- What a record can tell of itself are its entries, as long as it has no extra members. -/
theorem entries_bare {sheet : Sheet} (hbare : sheet.extra = []) {own : Members} :
    sheet.entries = .ok own ↔ sheet.Owns own := by
  rw [entries_eq, hbare]
  simp only [Outcome.bind_eq_ok]
  constructor
  · rintro ⟨time, htime, message, hmessage, trace, htrace, heq⟩
    exact ⟨time, message, trace, htime, hmessage, htrace, (Except.ok.inj heq).symm⟩
  · rintro ⟨time, message, trace, htime, hmessage, htrace, rfl⟩
    exact ⟨time, htime, message, hmessage, trace, htrace, rfl⟩

/-- Extra members change nothing of what a record can tell of itself. -/
theorem entries_with {sheet : Sheet} (hbare : sheet.extra = []) {extra : Members}
    (hmethod : extra.get? "getMessage" = none) :
    { sheet with extra }.entries
      = sheet.entries.map fun own => own.update (redactMembers extra) := by
  have hmessage : { sheet with extra }.message = sheet.message := by
    rw [message, message, hmethod, hbare]
    rfl
  have htime : { sheet with extra }.timestamp = sheet.timestamp := rfl
  have htrace : { sheet with extra }.traceText = sheet.traceText := rfl
  rw [entries_eq, entries_eq, htime, hmessage, htrace, hbare]
  cases sheet.timestamp with
  | error fault => rfl
  | ok time =>
      cases sheet.message with
      | error fault => rfl
      | ok message =>
          cases sheet.traceText with
          | error fault => rfl
          | ok trace => rfl

/-- An extra member can hide how the message of a record is made. -/
theorem entries_hidden (sheet : Sheet) {extra : Members}
    (hmethod : extra.get? "getMessage" ≠ none) :
    ∃ fault, { sheet with extra }.entries = .error fault := by
  have hmessage : { sheet with extra }.message = .error .wrongType := by
    rw [message, if_pos (Option.isSome_iff_ne_none.mpr hmethod)]
  rw [entries_eq, hmessage]
  cases { sheet with extra }.timestamp with
  | error fault => exact ⟨fault, rfl⟩
  | ok time => exact ⟨.wrongType, rfl⟩

end Sheet

-- ── What stands in a line ──────────────────────────────────────────────────────────

/-- What becomes of the entries of a record and of extra members that are laid over them. -/
structure Kept (own members entries : Members) : Prop where
  /-- An entry of the record stands, unless an extra member is named like it. -/
  stands : ∀ entry ∈ own, members.lacks entry.1 → entry ∈ entries
  /-- Every extra member is there, redacted. -/
  shown : ∀ member ∈ members, (member.1, redact member.1 member.2) ∈ entries
  /-- There is one entry of each name. -/
  once : entries.keys.Nodup
  /-- If no names meet, the extra members follow the entries of the record, in their order. -/
  apart : (∀ entry ∈ own, members.lacks entry.1) → entries = own ++ redactMembers members

theorem keys_redactMembers (members : Members) : keys (redactMembers members) = members.keys := by
  rw [redactMembers_eq_map, keys, List.map_map]
  rfl

theorem mem_redactMembers {members : Members} {member : Value × Value} (h : member ∈ members) :
    (member.1, redact member.1 member.2) ∈ redactMembers members := by
  rw [redactMembers_eq_map]
  exact List.mem_map_of_mem h

/-- **What is laid over the entries of a record is there, and all else stands.** -/
theorem kept_update {own members : Members} (hown : own.keys.Nodup)
    (hnames : ∀ entry ∈ own, ∃ name, entry.1 = .str name) (hmembers : members.keys.Nodup) :
    Kept own members (own.update (redactMembers members)) := by
  have hkeys : (keys (redactMembers members)).Nodup := by
    rw [keys_redactMembers]
    exact hmembers
  have hstands {entry : Value × Value} (h : members.lacks entry.1) :
      Members.renewed (redactMembers members) entry = entry := by
    refine Members.renewed_of_none (Members.lookup?_eq_none.mpr ?_)
    rw [keys_redactMembers]
    exact Members.lacks_iff.mp h
  refine ⟨?_, ?_, Members.nodup_update hown _, ?_⟩
  · intro entry hentry hlacks
    rw [Members.update_eq hown hkeys]
    exact List.mem_append_left _ (List.mem_map.mpr ⟨entry, hentry, hstands hlacks⟩)
  · intro member hmember
    rw [Members.update_eq hown hkeys]
    by_cases hnew : own.lacks member.1 = true
    · exact List.mem_append_right _ (List.mem_filter.mpr ⟨mem_redactMembers hmember, hnew⟩)
    · -- an entry of the same name gives up its place, and its name is the same text
      obtain ⟨entry, hentry, hsame⟩ :=
        List.mem_map.mp (not_not.mp fun h => hnew (Members.lacks_iff.mpr h))
      obtain ⟨name, hname⟩ := hnames entry hentry
      have hkey : member.1 = entry.1 := by
        rw [hname] at hsame ⊢
        exact Value.key_eq_str_iff.mp hsame.symm
      refine List.mem_append_left _ (List.mem_map.mpr ⟨entry, hentry, ?_⟩)
      rw [Members.renewed, Members.lookup?_of_mem hkeys (mem_redactMembers hmember) hsame.symm,
        hkey]
      rfl
  · intro hlacks
    rw [Members.update_eq hown hkeys]
    have hall : own.map (Members.renewed (redactMembers members)) = own :=
      (List.map_congr_left fun entry hentry => hstands (hlacks entry hentry)).trans
        (List.map_id own)
    have hnew : (redactMembers members).filter (fun u => own.lacks u.1)
        = redactMembers members := by
      refine List.filter_eq_self.mpr fun u hu => Members.lacks_iff.mpr fun hmem => ?_
      obtain ⟨entry, hentry, hsame⟩ := List.mem_map.mp hmem
      refine Members.lacks_iff.mp (hlacks entry hentry) ?_
      rw [← keys_redactMembers members, hsame]
      exact List.mem_map_of_mem hu
    rw [hall, hnew]

/-- **EXTRA MEMBERS DO NOT DISPLACE WHAT A RECORD SAYS OF ITSELF**, unless they have its names.
    Let members be set on a record that has none.  If the record can tell its own entries, each
    of these stands in the line unless an extra member is named like it, and every extra member
    that is visible is there with its redacted value; the line is made of just these entries,
    in JSON provided that it can hold their keys.  If the record cannot be told, neither can the
    line.  An extra member `getMessage` leaves it without a message. -/
theorem line_keeps_own {sheet : Sheet} (hbare : sheet.extra = []) {members : Members}
    (haccepted : Sheet.Accepted members) (kind : LineKind) :
    (members.get? "getMessage" ≠ none →
        ∃ fault, (sheet.assignAll members).line kind = .error fault)
      ∧ (members.get? "getMessage" = none →
        (∀ fault, sheet.entries = .error fault →
          (sheet.assignAll members).line kind = .error fault)
        ∧ ∀ own, sheet.entries = .ok own → sheet.Owns own
          ∧ ∃ entries, Kept own (members.filter Sheet.visible) entries
            ∧ (sheet.assignAll members).line kind
              = if kind.holds entries then .ok (kind.joined (entries.map kind.part))
                else .error .wrongType) := by
  rw [Sheet.assignAll_accepted hbare haccepted,
    ← Sheet.get?_visible (show Sheet.visible (.str "getMessage", .null) = true by decide)]
  refine ⟨fun hmethod => ?_, fun hmethod => ⟨fun fault herror => ?_, fun own hown => ?_⟩⟩
  · obtain ⟨fault, herror⟩ := Sheet.entries_hidden sheet hmethod
    rw [Sheet.line, herror]
    exact ⟨fault, rfl⟩
  · rw [Sheet.line, Sheet.entries_with hbare hmethod, herror]
    rfl
  · have howns := (Sheet.entries_bare hbare).mp hown
    refine ⟨howns, _, kept_update howns.keys howns.names haccepted.keys_visible, ?_⟩
    rw [Sheet.line, Sheet.entries_with hbare hmethod, hown]
    exact Sheet.write_eq kind _

/-- A record of a call that failed. -/
def failedCall : Sheet :=
  .ofRecord ⟨"calls", LogRecord.error, "call failed", [], [],
    some (.of (.named "TimeoutError") "late")⟩ (.int 0) (.int 0)

/-- What the record says of itself. -/
def failedEntries : Members :=
  [(.str "timestamp", .str "1970-01-01 00:00:00,000"), (.str "level", .str "ERROR"),
    (.str "logger", .str "calls"), (.str "message", .str "call failed"),
    (.str "exception", .str "TimeoutError: late")]

/-- A name that no entry of the record has, and a secret. -/
def called : Members :=
  [("deployment", Value.str "gpt-4o"), ("api_key", .str "abc")].map fun member =>
    (.str member.1, member.2)

/-- The record of the failed call keeps its entries, and both members follow. -/
theorem line_keeps_own_called :
    failedCall.extra = [] ∧ Sheet.Accepted called
      ∧ failedCall.entries = .ok failedEntries
      ∧ ∃ entries, Kept failedEntries called entries
        ∧ entries = failedEntries ++ redactMembers called
        ∧ (failedCall.assignAll called).line .json
          = if LineKind.holds .json entries then
              .ok (LineKind.joined .json (entries.map (LineKind.part .json)))
            else .error .wrongType := by
  have hbare : failedCall.extra = [] := rfl
  have haccepted : Sheet.Accepted called :=
    Sheet.accepted_ofNames (by decide) (by decide)
  have hentries : failedCall.entries = .ok failedEntries := rfl
  obtain ⟨-, entries, hkept, hline⟩ :=
    ((line_keeps_own hbare haccepted .json).2 rfl).2 failedEntries hentries
  have hlacks : ∀ entry ∈ failedEntries, called.lacks entry.1 := by decide
  exact ⟨hbare, haccepted, hentries, entries, hkept, hkept.apart hlacks, hline⟩

/-- Members with the names of the entries of a record. -/
def spoofing : Members :=
  [("timestamp", Value.str "then"), ("level", .str "FINE"), ("logger", .str "other"),
    ("exception", .str "none")].map fun member => (.str member.1, member.2)

/-- Members that are accepted displace everything that the record says of itself but its
    message. -/
theorem own_entries_displaced :
    Sheet.Accepted spoofing
      ∧ failedCall.entries = .ok failedEntries
      ∧ (failedCall.assignAll spoofing).entries = .ok [(.str "timestamp", .str "then"),
        (.str "level", .str "FINE"), (.str "logger", .str "other"),
        (.str "message", .str "call failed"), (.str "exception", .str "none")] :=
  ⟨Sheet.accepted_ofNames (by decide) (by decide), rfl, rfl⟩

end CompletionStream.Log
