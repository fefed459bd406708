import CompletionStream.Wire.Decode
import CompletionStream.Wire.Failure

/-!
# Faults of reading — what a chunk that cannot be read raises

A fault is *plain* if handlers of failures see it and if no provider's client raised it.  Every
fault of reading data is plain: of a field (`Checked.Plain`), of token counts (`plain_count`)
and of a whole chunk (`plain_chunk`).  So a chunk that cannot be read is a failure like any
other, and relaying it changes nothing (`relayed_of_plain`).  A failure that a provider's client
did raise is wrapped (`wraps_wrapped`).
-/

namespace CompletionStream

namespace Fault

/-- Handlers of failures see the fault, and no provider's client raised it. -/
structure Plain (fault : Fault) : Prop where
  ordinary : fault.isOrdinary = true
  own : fault.kind.isVendor = false

/-- A fault wraps another: it names it, has its status, and the other stands behind it as it
    was. -/
structure Wraps (told fault : Fault) : Prop where
  name : told.name = "TransportError"
  message : told.message = fault.name ++ ": " ++ fault.message
  status : told.status? = some (fault.status?.getD .null)
  cause : told.cause? = some fault

/-- **A failure of a provider's client is wrapped.** -/
theorem wraps_wrapped {fault : Fault} (h : fault.kind.isVendor = true) :
    (Wire.wrapped fault).Wraps fault := by
  obtain ⟨kind, text⟩ := fault
  cases kind with
  | vendor name status => exact ⟨rfl, rfl, rfl, rfl⟩
  | _ => exact absurd h Bool.false_ne_true

theorem plain_wrongType : wrongType.Plain := ⟨rfl, rfl⟩

theorem plain_noMember : noMember.Plain := ⟨rfl, rfl⟩

theorem plain_wrongValue : wrongValue.Plain := ⟨rfl, rfl⟩

theorem plain_overflow : overflow.Plain := ⟨rfl, rfl⟩

end Fault

/-- Every fault of a computation is plain. -/
def Outcome.Plain {α : Type} (outcome : Outcome α) : Prop :=
  ∀ fault, outcome = .error fault → fault.Plain

namespace Outcome

variable {α β : Type}

theorem plain_ok (a : α) : Outcome.Plain (.ok a) :=
  fun _ h => nomatch h

theorem plain_error {fault : Fault} (h : fault.Plain) :
    Outcome.Plain (.error fault : Outcome α) := by
  intro raised hraised
  rw [← Except.error.inj hraised]
  exact h

/-- What follows a plain computation keeps it plain. -/
theorem plain_bind {x : Outcome α} {f : α → Outcome β} (hx : Outcome.Plain x)
    (hf : ∀ a, Outcome.Plain (f a)) : Outcome.Plain (x >>= f) := by
  cases x with
  | error fault => exact plain_error (hx fault rfl)
  | ok a => exact hf a

theorem plain_mapM {f : α → Outcome β} (hf : ∀ a, Outcome.Plain (f a)) (items : List α) :
    Outcome.Plain (items.mapM f) := by
  induction items with
  | nil => exact plain_ok []
  | cons a rest ih =>
      rw [List.mapM_cons]
      exact plain_bind (hf a) fun b => plain_bind ih fun bs => plain_ok (b :: bs)

end Outcome

/-- A reading that was abandoned was abandoned with a plain fault. -/
def Checked.Plain {α : Type} (reading : Checked α) : Prop :=
  ∀ fault, reading = .abandoned fault → fault.Plain

namespace Checked

variable {α β : Type}

theorem plain_ok (a : α) : Plain (.ok a) :=
  fun _ h => nomatch h

theorem plain_misfit (details : List Detail) : Plain (.misfit details : Checked α) :=
  fun _ h => nomatch h

theorem plain_abandoned {fault : Fault} (h : fault.Plain) :
    Plain (.abandoned fault : Checked α) := by
  intro raised hraised
  cases hraised
  exact h

theorem plain_under {reading : Checked α} (h : reading.Plain) (step : Locator) :
    (reading.under step).Plain := by
  cases reading with
  | ok a => exact plain_ok a
  | misfit details => exact plain_misfit _
  | abandoned fault => exact h

theorem plain_map {reading : Checked α} (h : reading.Plain) (f : α → β) :
    (f <$> reading).Plain := by
  cases reading with
  | ok a => exact plain_ok (f a)
  | misfit details => exact plain_misfit details
  | abandoned fault => exact plain_abandoned (h fault rfl)

theorem plain_seq {f : Checked (α → β)} {a : Checked α} (hf : f.Plain) (ha : a.Plain) :
    (f <*> a).Plain := by
  show (apply f a).Plain
  cases f with
  | abandoned fault => exact plain_abandoned (hf fault rfl)
  | ok g =>
      cases a with
      | ok a => exact plain_ok (g a)
      | misfit details => exact plain_misfit details
      | abandoned fault => exact plain_abandoned (ha fault rfl)
  | misfit ds =>
      cases a with
      | ok a => exact plain_misfit ds
      | misfit es => exact plain_misfit (ds ++ es)
      | abandoned fault => exact plain_abandoned (ha fault rfl)

theorem plain_toOutcome {reading : Checked α} (h : reading.Plain) :
    Outcome.Plain reading.toOutcome := by
  cases reading with
  | ok a => exact Outcome.plain_ok a
  | misfit details => exact Outcome.plain_error ⟨rfl, rfl⟩
  | abandoned fault => exact Outcome.plain_error (h fault rfl)

end Checked

-- ── Readers ────────────────────────────────────────────────────────────────────────

namespace Reader

theorem plain_text (v : Value) : (text v).Plain := by
  cases v with
  | str s => exact Checked.plain_ok s
  | _ => exact Checked.plain_misfit _

theorem plain_wholeFloat (x : Float) : (wholeFloat x).Plain := by
  rw [wholeFloat]
  split
  · split
    · exact Checked.plain_misfit _
    · split
      · exact Checked.plain_ok _
      · exact Checked.plain_misfit _
  · exact Checked.plain_misfit _

theorem plain_integer (v : Value) : (integer v).Plain := by
  cases v with
  | int n => exact Checked.plain_ok n
  | bool b => exact Checked.plain_ok _
  | float x => exact plain_wholeFloat x
  | str s =>
      rw [integer]
      split
      · exact Checked.plain_ok _
      · exact Checked.plain_misfit _
      · exact Checked.plain_misfit _
  | _ => exact Checked.plain_misfit _

theorem plain_nullable {α : Type} {read : Reader α} (h : ∀ v, (read v).Plain) (v : Value) :
    (nullable read v).Plain := by
  cases v with
  | null => exact Checked.plain_ok none
  | _ => exact Checked.plain_map (h _) some

end Reader

theorem plain_truncated (c : FloatClass) : Outcome.Plain c.truncated := by
  cases c with
  | nan => exact Outcome.plain_error Fault.plain_wrongValue
  | infinite negative => exact Outcome.plain_error Fault.plain_overflow
  | finite negative mantissa exponent => exact Outcome.plain_ok _

theorem plain_lenientInteger (v : Value) : Outcome.Plain (lenientInteger v) := by
  cases v with
  | int n => exact Outcome.plain_ok n
  | bool b => exact Outcome.plain_ok _
  | float x => exact plain_truncated _
  | str s =>
      rw [lenientInteger]
      split
      · exact Outcome.plain_ok _
      · exact Outcome.plain_error Fault.plain_wrongValue
  | _ => exact Outcome.plain_error Fault.plain_wrongType

-- ── Chunks ─────────────────────────────────────────────────────────────────────────

namespace Wire

theorem plain_firstItem (v : Value) : Outcome.Plain (firstItem? v) := by
  rw [firstItem?.eq_def]
  split
  · exact Outcome.plain_ok _
  · exact Outcome.plain_ok _
  · exact Outcome.plain_ok _
  · split
    · exact Outcome.plain_error Fault.plain_wrongType
    · exact Outcome.plain_ok _

theorem plain_itemsOf (v : Value) : Outcome.Plain (itemsOf v) := by
  rw [itemsOf.eq_def]
  split
  · exact Outcome.plain_ok _
  · exact Outcome.plain_ok _
  · exact Outcome.plain_ok _
  · split
    · exact Outcome.plain_error Fault.plain_wrongType
    · exact Outcome.plain_ok _

theorem plain_count (v : Value) : Outcome.Plain (count v) := by
  rw [count]
  split
  · exact plain_lenientInteger v
  · exact Outcome.plain_ok 0

theorem plain_usage (v : Value) : Outcome.Plain (usage v) := by
  cases v with
  | null => exact Outcome.plain_ok none
  | _ =>
      exact Outcome.plain_bind (plain_count _) fun _ =>
        Outcome.plain_bind (plain_count _) fun _ =>
          Outcome.plain_bind (plain_count _) fun _ => Outcome.plain_ok _

theorem plain_callDelta (v : Value) : Outcome.Plain (callDelta v) := by
  refine Checked.plain_toOutcome (Checked.plain_seq (Checked.plain_seq (Checked.plain_seq
    (Checked.plain_map ?_ _) ?_) ?_) ?_)
  · exact Checked.plain_under (Reader.plain_integer _) _
  · exact Checked.plain_under (Reader.plain_nullable Reader.plain_text _) _
  · exact Checked.plain_under (Reader.plain_nullable Reader.plain_text _) _
  · exact Checked.plain_under (Reader.plain_text _) _

theorem plain_ofWire (v : Value) : Outcome.Plain (FinishReason.ofWire v) := by
  rw [FinishReason.ofWire.eq_def]
  split
  · split
    · exact Outcome.plain_ok _
    · exact Outcome.plain_error Fault.plain_noMember
  · exact Outcome.plain_ok none

theorem plain_reason (v : Value) : Outcome.Plain (reason v) := by
  cases v with
  | dict members => exact Outcome.plain_error Fault.plain_noMember
  | _ => exact plain_ofWire _

theorem plain_choice (v : Value) : Outcome.Plain (choice v) :=
  Outcome.plain_bind (plain_itemsOf _) fun calls =>
    Outcome.plain_bind (Outcome.plain_mapM plain_callDelta calls) fun _ =>
      Outcome.plain_bind (plain_reason _) fun _ => Outcome.plain_ok _

theorem plain_firstChoice (v : Value) : Outcome.Plain (firstChoice v) := by
  refine Outcome.plain_bind (plain_firstItem v) fun item => ?_
  cases item with
  | none => exact Outcome.plain_ok _
  | some c => exact plain_choice c

/-- **Reading a chunk raises plain faults only.** -/
theorem plain_chunk (raw : Value) : Outcome.Plain (chunk raw) := by
  refine Outcome.plain_bind (plain_firstChoice _) fun first =>
    Outcome.plain_bind (plain_usage _) fun cost => ?_
  have htext (v : Value) : (Reader.nullable .text v).Plain :=
    Reader.plain_nullable Reader.plain_text v
  refine Checked.plain_toOutcome (Checked.plain_seq (Checked.plain_seq (Checked.plain_seq
    (Checked.plain_seq (Checked.plain_seq (Checked.plain_map ?_ _) ?_) ?_) ?_) ?_) ?_)
  · exact Checked.plain_under (htext _) _
  · exact Checked.plain_under (htext _) _
  · exact Checked.plain_under (htext _) _
  · exact Checked.plain_ok _
  · exact Checked.plain_ok _
  · exact Checked.plain_ok _

-- ── Relaying ───────────────────────────────────────────────────────────────────────

/-- A plain fault is relayed as it is. -/
theorem relayed_of_plain {fault : Fault} (h : fault.Plain) : relayed fault = fault := by
  rw [relayed, h.own]
  rfl

/-- Relaying keeps a fault ordinary. -/
theorem relayed_ordinary {fault : Fault} (h : fault.isOrdinary = true) :
    (relayed fault).isOrdinary = true := by
  rw [relayed]
  split
  · rfl
  · exact h

end Wire

end CompletionStream
